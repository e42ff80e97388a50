import ActorWeb.ExecutionReceipts
import ActorWeb.OrderedMap
import ActorWeb.Transition

namespace ActorWeb.SystemEvents

section EventActor

structure SystemEventPayload where
  eventType : String
  timestamp : Int
  data : Json
deriving DecidableEq

structure Subscriber where
  path : String
  actorRef : Option String
  eventTypes : Option (List String)

structure EventActorState where
  subscribers : OrderedMap String Subscriber
  eventHistory : List SystemEventPayload
  maxHistorySize : Nat

structure Notification where
  target : String
  event : SystemEventPayload
deriving DecidableEq

inductive Message
  | subscribe (subscriberPath : String) (subscriberRef : Option String)
      (eventTypes : Option (List String))
  | unsubscribe (subscriberPath : String)
  | subscribeToSystemEvents (subscriberPath : String) (subscriberRef : Option String)
      (eventTypes : Option (List String))
  | unsubscribeFromSystemEvents (subscriberPath : String)
  | emitSystemEvent (event : SystemEventPayload)
  | unknown

/-- What the handler returns: nothing, domain events, or instructions in the reply. -/
inductive HandlerResult
  | nothing
  | domainEvents (events : List SystemEventPayload)
  | reply (instructions : List Notification)

def createSystemEventActor (maxHistorySize : Nat) : EventActorState :=
  { subscribers := OrderedMap.empty, eventHistory := [], maxHistorySize }

namespace EventActorState

variable (s : EventActorState)

def subscriberId (path : String) : Option String :=
  (s.subscribers.entries.find? fun e => e.2.path = path).map Prod.fst

def addSubscriber (subscriber : Subscriber) (generated : String) : EventActorState :=
  { s with
    subscribers := s.subscribers.set ((s.subscriberId subscriber.path).getD generated) subscriber }

def removeSubscriber (path : String) : EventActorState :=
  match s.subscriberId path with
  | some id => { s with subscribers := s.subscribers.delete id }
  | none => s

def record (event : SystemEventPayload) : EventActorState :=
  let history := s.eventHistory ++ [event]
  { s with eventHistory := if s.maxHistorySize < history.length then history.tail else history }

def recentEvents (eventTypes : Option (List String)) : List SystemEventPayload :=
  let recent := s.eventHistory.drop (s.eventHistory.length - 10)
  (recent.filter fun e => eventTypes.all fun types => e.eventType ∈ types).map fun e =>
    { e with data := if AgentExecution.JsValue.jsonTruthy e.data then e.data else .null }

end EventActorState

def Subscriber.isInterested (subscriber : Subscriber) (event : SystemEventPayload) : Bool :=
  subscriber.eventTypes.all fun types => event.eventType ∈ types || "*" ∈ types

def Subscriber.target (subscriber : Subscriber) : String :=
  subscriber.actorRef.getD subscriber.path

def EventActorState.notifications (s : EventActorState) (event : SystemEventPayload) :
    List Notification :=
  (s.subscribers.values.filter fun subscriber => subscriber.isInterested event).map fun subscriber =>
    { target := subscriber.target, event }

def EventActorState.onMessage (s : EventActorState) (generated : String) :
    Message → EventActorState × HandlerResult
  | .subscribe path ref eventTypes => (s.addSubscriber ⟨path, ref, eventTypes⟩ generated, .nothing)
  | .unsubscribe path | .unsubscribeFromSystemEvents path => (s.removeSubscriber path, .nothing)
  | .subscribeToSystemEvents path ref eventTypes =>
    let added := s.addSubscriber ⟨path, ref, eventTypes⟩ generated
    (added, if (added.recentEvents eventTypes).isEmpty then .nothing
      else .domainEvents (added.recentEvents eventTypes))
  | .emitSystemEvent event =>
    let recorded := s.record event
    (recorded, .reply (recorded.notifications event))
  | .unknown => (s, .nothing)

end EventActor

section Process

/-- A message in the mailbox of an event actor; only one that is asked has a correlation id. -/
structure Envelope where
  message : Message
  correlationId : Option String

structure Effects where
  responses : List (String × List Notification)
  emitted : List SystemEventPayload
  sent : List Notification

/-- A reply goes to the asker, if there is one; `emit` is where instructions are taken from. -/
def processResult (result : HandlerResult) (emit : List Notification)
    (correlationId : Option String) : Effects :=
  match result with
  | .nothing => { responses := [], emitted := [], sent := [] }
  | .domainEvents events => { responses := [], emitted := events, sent := [] }
  | .reply instructions =>
    { responses := (correlationId.filter (· ≠ "")).toList.map fun id => (id, instructions)
      emitted := [], sent := emit }

inductive Phase
  | down | starting | up
deriving DecidableEq

/-- One actor system, as far as its event actor goes, and apart from it what a system with an event
actor of its own would have: the state of that actor, and the notifications due to its
subscribers. -/
structure System where
  phase : Phase
  systemEventCallbacks : List String
  mailbox : List Envelope
  responses : List (String × List Notification)
  emitted : List SystemEventPayload
  sent : List Notification
  own : EventActorState
  due : List Notification

variable {ι : Type} [DecidableEq ι]

/-- A process with several systems and the state their event actors have in common. -/
structure World (ι : Type) where
  systemEventState : EventActorState
  systems : ι → System

def World.new : World ι where
  systemEventState := createSystemEventActor 100
  systems _ :=
    { phase := .down, systemEventCallbacks := [], mailbox := [], responses := [], emitted := []
      sent := [], own := createSystemEventActor 100, due := [] }

def World.modify (w : World ι) (x : ι) (f : System → System) : World ι :=
  { w with systems := Function.update w.systems x (f (w.systems x)) }

def System.enqueue (s : System) (e : Envelope) : System :=
  if s.phase = .up then { s with mailbox := s.mailbox ++ [e] } else s

def System.subscribeToSystemEvents (s : System) (callbackPath : String) : System :=
  { s with systemEventCallbacks := s.systemEventCallbacks ++ [callbackPath] }.enqueue
    { message := .subscribeToSystemEvents callbackPath none none, correlationId := none }

def System.unsubscribe (s : System) (callbackPath : String) : System :=
  let enqueued := s.enqueue
    { message := .unsubscribeFromSystemEvents callbackPath, correlationId := none }
  { enqueued with
    systemEventCallbacks := enqueued.systemEventCallbacks.filter (· ≠ callbackPath) }

def System.emitSystemEvent (s : System) (event : SystemEventPayload) : System :=
  s.enqueue { message := .emitSystemEvent event, correlationId := none }

def HandlerResult.instructions : HandlerResult → List Notification
  | .reply instructions => instructions
  | _ => []

/-- The event actor of a system takes a message: it works on the common state, its own state is
where the message would have gone. -/
def System.take (s : System) (common : EventActorState) (generated : String) (e : Envelope)
    (rest : List Envelope) : System :=
  let effects := processResult (common.onMessage generated e.message).2 [] e.correlationId
  { s with
    mailbox := rest
    responses := s.responses ++ effects.responses
    emitted := s.emitted ++ effects.emitted
    sent := s.sent ++ effects.sent
    own := (s.own.onMessage generated e.message).1
    due := s.due ++ (s.own.onMessage generated e.message).2.instructions }

inductive Action (ι : Type)
  | start (x : ι)
  | started (x : ι)
  | stop (x : ι)
  | subscribe (x : ι) (callbackPath : String)
  | unsubscribe (x : ι) (callbackPath : String)
  | emit (x : ι) (event : SystemEventPayload)
  | send (x : ι) (e : Envelope)
  | process (x : ι) (generated : String)

def World.step (w : World ι) : Action ι → Option (World ι)
  | .start x =>
    if (w.systems x).phase = .down then
      some { w.modify x fun s => { s with
          phase := .starting, mailbox := [], own := createSystemEventActor 100 } with
        systemEventState := createSystemEventActor 100 }
    else none
  | .started x =>
    if (w.systems x).phase = .starting then some (w.modify x fun s => { s with phase := .up })
    else none
  | .stop x => some (w.modify x fun s => { s with phase := .down, mailbox := [] })
  | .subscribe x callbackPath => some (w.modify x fun s => s.subscribeToSystemEvents callbackPath)
  | .unsubscribe x callbackPath => some (w.modify x fun s => s.unsubscribe callbackPath)
  | .emit x event => some (w.modify x fun s => s.emitSystemEvent event)
  | .send x e => some (w.modify x fun s => s.enqueue e)
  | .process x generated =>
    match (w.systems x).mailbox with
    | [] => none
    | e :: rest =>
      some { w.modify x fun s => s.take w.systemEventState generated e rest with
        systemEventState := (w.systemEventState.onMessage generated e.message).1 }

end Process

section Isolation

open Transition

variable {ι : Type} [DecidableEq ι] {w w' : World ι}

/-- Every system sends its subscribers what is due to them, and its event actor works on the state
that its own messages made. -/
structure Law (w : World ι) : Prop where
  delivered : ∀ x, (w.systems x).sent = (w.systems x).due
  isolated : ∀ x, (w.systems x).phase ≠ .down → w.systemEventState = (w.systems x).own

/-- A system starts when the others that run have an event actor as it was made; a message that an
event actor takes has no notification for anyone, and changes nothing while another system runs. -/
def Meets (w : World ι) : Action ι → Prop
  | .start x => ∀ y, y ≠ x → (w.systems y).phase ≠ .down →
      w.systemEventState = createSystemEventActor 100
  | .process x generated => ∀ e rest, (w.systems x).mailbox = e :: rest →
      (w.systemEventState.onMessage generated e.message).2.instructions = [] ∧
      ∀ y, y ≠ x → (w.systems y).phase ≠ .down →
        (w.systemEventState.onMessage generated e.message).1 = w.systemEventState
  | _ => True

/-- Only a system whose event actor runs has messages for it, and nothing was ever sent. -/
structure Silent (w : World ι) : Prop where
  running : ∀ x, (w.systems x).mailbox ≠ [] → (w.systems x).phase ≠ .down
  unsent : ∀ x, (w.systems x).sent = []

omit [DecidableEq ι] in
theorem silent_new : Silent (World.new : World ι) := ⟨fun _ h => absurd rfl h, fun _ => rfl⟩

omit [DecidableEq ι] in
theorem law_new : Law (World.new : World ι) := ⟨fun _ => rfl, fun _ h => absurd rfl h⟩

theorem sent_nil (result : HandlerResult) (correlationId : Option String) :
    (processResult result [] correlationId).sent = [] := by
  cases result with
  | nothing => rfl
  | domainEvents events => rfl
  | reply instructions => rfl

structure Quiet (s t : System) : Prop where
  sent : t.sent = s.sent
  due : t.due = s.due
  own : t.own = s.own
  phase : t.phase = s.phase ∨ t.phase = .down ∨ s.phase = .starting ∧ t.phase = .up
  mailbox : t.mailbox ≠ [] → t.phase ≠ .down

theorem quiet_enqueue {s : System} (h : s.mailbox ≠ [] → s.phase ≠ .down) (e : Envelope) :
    Quiet s (s.enqueue e) := by
  unfold System.enqueue
  split
  case isTrue hup => exact ⟨rfl, rfl, rfl, .inl rfl, fun _ => by rw [hup]; exact nofun⟩
  case isFalse => exact ⟨rfl, rfl, rfl, .inl rfl, h⟩

def Fine (common : EventActorState) (s : System) : Prop :=
  s.sent = s.due ∧ (s.phase ≠ .down → common = s.own)

def Calm (s : System) : Prop := (s.mailbox ≠ [] → s.phase ≠ .down) ∧ s.sent = []

omit [DecidableEq ι] in
theorem law_iff : Law w ↔ ∀ x, Fine w.systemEventState (w.systems x) :=
  ⟨fun h x => ⟨h.delivered x, h.isolated x⟩, fun h => ⟨fun x => (h x).1, fun x => (h x).2⟩⟩

omit [DecidableEq ι] in
theorem silent_iff : Silent w ↔ ∀ x, Calm (w.systems x) :=
  ⟨fun h x => ⟨h.running x, h.unsent x⟩, fun h => ⟨fun x => (h x).1, fun x => (h x).2⟩⟩

theorem law_update (w : World ι) (x : ι) (s : System) (common : EventActorState) :
    Law { systemEventState := common, systems := Function.update w.systems x s } ↔
      Fine common s ∧ ∀ y, y ≠ x → Fine common (w.systems y) := by
  rw [law_iff]
  exact Function.forall_update_iff w.systems fun _ t => Fine common t

theorem silent_update (h : Silent w) (x : ι) {s : System} (hs : Calm s) (common : EventActorState) :
    Silent { systemEventState := common, systems := Function.update w.systems x s } := by
  rw [silent_iff]
  exact (Function.forall_update_iff w.systems fun _ t => Calm t).mpr
    ⟨hs, fun y _ => silent_iff.mp h y⟩

theorem quiet_modify {x : ι} {f : System → System} (hquiet : Quiet (w.systems x) (f (w.systems x)))
    (h : Silent w) : Silent (w.modify x f) ∧ (Law w → Law (w.modify x f)) := by
  refine ⟨silent_update h x ⟨hquiet.mailbox, hquiet.sent.trans (h.unsent x)⟩ _, fun hlaw => ?_⟩
  refine (law_update w x _ _).mpr ⟨⟨?_, fun hrun => ?_⟩, fun y _ => law_iff.mp hlaw y⟩
  · rw [hquiet.sent, hquiet.due]
    exact hlaw.delivered x
  · rw [hquiet.own]
    refine hlaw.isolated x ?_
    rcases hquiet.phase with hphase | hphase | ⟨hphase, -⟩
    · exact hphase ▸ hrun
    · exact absurd hphase hrun
    · rw [hphase]
      exact nofun

theorem start_step (h : Silent w) (hlaw : Law w) {x : ι}
    (hstep : w.step (.start x) = some w') : Silent w' ∧ (Law w' ↔ Meets w (.start x)) := by
  simp only [World.step] at hstep
  split at hstep
  case isFalse => cases hstep
  case isTrue hdown =>
    cases hstep
    refine ⟨silent_update h x ?_ _, ?_⟩
    · exact ⟨fun hm => absurd rfl hm, h.unsent x⟩
    refine (law_update w x _ _).trans ⟨fun hnew y hy hrun => ?_, fun hmeets => ⟨?_, ?_⟩⟩
    · rw [hlaw.isolated y hrun]
      exact ((hnew.2 y hy).2 hrun).symm
    · exact ⟨hlaw.delivered x, fun _ => rfl⟩
    · exact fun y hy => ⟨hlaw.delivered y,
        fun hrun => (hmeets y hy hrun).symm.trans (hlaw.isolated y hrun)⟩

theorem process_step (h : Silent w) (hlaw : Law w) {x : ι} {generated : String}
    (hstep : w.step (.process x generated) = some w') :
    Silent w' ∧ (Law w' ↔ Meets w (.process x generated)) := by
  simp only [World.step] at hstep
  split at hstep
  case h_1 => cases hstep
  case h_2 e rest hmailbox =>
    cases hstep
    have hrun : (w.systems x).phase ≠ .down :=
      h.running x (by rw [hmailbox]; exact List.cons_ne_nil _ _)
    have hown := hlaw.isolated x hrun
    -- The system's own state is the common one, so its own message changes both alike.
    have hfine : Fine (w.systemEventState.onMessage generated e.message).1
        ((w.systems x).take w.systemEventState generated e rest) ↔
        (w.systemEventState.onMessage generated e.message).2.instructions = [] := by
      simp only [Fine, System.take, sent_nil, List.append_nil, ← hown, hlaw.delivered x,
        implies_true, and_true]
      exact List.self_eq_append_right
    refine ⟨silent_update h x ?_ _, ?_⟩
    · refine ⟨fun _ => hrun, ?_⟩
      simp only [System.take, h.unsent x, sent_nil, List.append_nil]
    · refine (law_update w x _ _).trans ⟨?_, fun hmeets => ?_⟩
      · rintro ⟨hx, hothers⟩ e' rest' he
        obtain ⟨rfl, rfl⟩ := List.cons.inj (hmailbox.symm.trans he)
        exact ⟨hfine.mp hx,
          fun y hy hyrun => ((hothers y hy).2 hyrun).trans (hlaw.isolated y hyrun).symm⟩
      · obtain ⟨hnone, hfixed⟩ := hmeets e rest hmailbox
        exact ⟨hfine.mpr hnone, fun y hy => ⟨hlaw.delivered y,
          fun hyrun => (hfixed y hy hyrun).trans (hlaw.isolated y hyrun)⟩⟩

theorem step_law (h : Silent w) (hlaw : Law w) {a : Action ι} (hstep : w.step a = some w') :
    (Law w' ↔ Meets w a) ∧ Silent w' := by
  have hquiet {x : ι} {f : System → System} (hq : Quiet (w.systems x) (f (w.systems x))) :
      (Law (w.modify x f) ↔ True) ∧ Silent (w.modify x f) :=
    ⟨iff_true_intro ((quiet_modify hq h).2 hlaw), (quiet_modify hq h).1⟩
  cases a with
  | start x => exact (start_step h hlaw hstep).symm
  | process x generated => exact (process_step h hlaw hstep).symm
  | started x =>
    simp only [World.step] at hstep
    split at hstep
    case isFalse => cases hstep
    case isTrue hstarting =>
      cases hstep
      exact hquiet ⟨rfl, rfl, rfl, .inr (.inr ⟨hstarting, rfl⟩), fun _ => nofun⟩
  | stop x =>
    cases hstep
    exact hquiet ⟨rfl, rfl, rfl, .inr (.inl rfl), fun hm => absurd rfl hm⟩
  | subscribe x callbackPath =>
    cases hstep
    have hq := quiet_enqueue (s := { w.systems x with
      systemEventCallbacks := (w.systems x).systemEventCallbacks ++ [callbackPath] }) (h.running x)
      { message := .subscribeToSystemEvents callbackPath none none, correlationId := none }
    exact hquiet ⟨hq.sent, hq.due, hq.own, hq.phase, hq.mailbox⟩
  | unsubscribe x callbackPath =>
    cases hstep
    have hq := quiet_enqueue (h.running x)
      { message := .unsubscribeFromSystemEvents callbackPath, correlationId := none }
    exact hquiet ⟨hq.sent, hq.due, hq.own, hq.phase, hq.mailbox⟩
  | emit x event =>
    cases hstep
    exact hquiet (quiet_enqueue (h.running x) _)
  | send x e =>
    cases hstep
    exact hquiet (quiet_enqueue (h.running x) e)

end Isolation

end ActorWeb.SystemEvents
