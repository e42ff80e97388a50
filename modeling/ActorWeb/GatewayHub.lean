import ActorWeb.GatewayReplayKeys
import ActorWeb.GatewayStream
import ActorWeb.OrderedMap
import ActorWeb.Transition

namespace ActorWeb.Gateway

open List JsText Function Transition

/-- The options of a hub that decide what it does with streams, scopes and owners. -/
structure HubOptions (Ctx : Type) where
  replayBufferSize : Int
  inboundQueueLimit : Nat
  (replayStorage auth commandAdmission : Bool)
  localeLe : String → String → Bool
  replayOwnerKey : Ctx → Option String

/-- What a stream knows of its source: `traces` when `asTraceSource` takes it. -/
structure Source where
  address : String
  traces : Bool
deriving DecidableEq

structure Origin (Ctx : Type) where
  connectionId : String
  authContext : Ctx
  streamId : String
  scope : Scope
deriving DecidableEq

/-- A subscribed stream. `origin` only records where it comes from. -/
structure GatewayStream (Ctx P : Type) where
  state : StreamState P
  source : Source
  (replaySessionId replayStorageStreamId : String)
  replayPersistenceToken : String × Nat
  origin : Origin Ctx

/-- Frames that wait to be stored. The job of the head of a queue may have started. -/
structure PersistJob (Ctx P : Type) where
  (replaySessionId replayStorageStreamId : String)
  frames : List (ReplayFrame P)
  token : String × Nat
  origin : Origin Ctx
  started : Bool

/-- The frames of a client, by what is done with them: a frame that fails the checks of its shape
is invalid, and the payload of a command does not matter here. -/
inductive ClientFrame
  | invalid
  | hello (lastConnectionId : Option String)
  | ping
  | unsubscribe (streamId : String)
  | resync (streamId : String) (fromSequence : FromSequence)
  | command (streamId : String)
  | subscribe (streamId : String) (scope : Scope) (mode : Mode) (fromSequence : FromSequence)

inductive GatewayEvent (Ctx P : Type)
  | verified (authContext : Ctx)
  | refused
  | scopeResolved (origin : Origin Ctx)
  | restored (origin : Origin Ctx) (source : Source) (frames : List (ReplayFrame P))
  | sent (mode : Option Mode) (frame : ServerFrame P)
  | dispatched (origin : Origin Ctx) (principalContext : Option Ctx)
deriving DecidableEq

structure Subscription (Ctx : Type) where
  origin : Origin Ctx
  mode : Mode
  fromSequence : FromSequence
  generation : Nat

inductive Activity (Ctx P : Type)
  | idle
  | verifying (lastConnectionId : Option String)
  | resolving (subscription : Subscription Ctx)
  | loading (subscription : Subscription Ctx) (source : Source)
  | registering (subscription : Subscription Ctx) (source : Source)
      (restored : List (ReplayFrame P))
  | subscribed (streamId : String) (fromSequence : FromSequence)
  | admitting (origin : Origin Ctx)
  | dispatching (origin : Origin Ctx) (principalContext : Option Ctx)

structure Connection (Ctx P : Type) where
  connectionId : String
  (authContext authenticatedAuthContext : Ctx)
  greeted : Bool
  replaySessionId : String
  terminated : Bool
  streams : OrderedMap String (GatewayStream Ctx P)
  subscribeGenerations : String → Nat
  subscriptions : Nat
  pendingFrames : List ClientFrame
  activity : Activity Ctx P
  log : List (GatewayEvent Ctx P)

variable {Ctx P : Type}

/-- What a step of a connection leaves: the connection, the jobs it queues, and the tokens whose
queued jobs it aborts. -/
structure ConnectionStep (Ctx P : Type) where
  connection : Connection Ctx P
  jobs : List (PersistJob Ctx P)
  aborted : List (String × Nat)

namespace Connection

def attached (connectionId : String) (authContext : Ctx) : Connection Ctx P where
  connectionId := connectionId
  authContext := authContext
  authenticatedAuthContext := authContext
  greeted := false
  replaySessionId := connectionId
  terminated := false
  streams := .empty
  subscribeGenerations := fun _ => 0
  subscriptions := 0
  pendingFrames := []
  activity := .idle
  log := []

variable (c : Connection Ctx P)

def quiet : ConnectionStep Ctx P := ⟨c, [], []⟩

def append (events : List (GatewayEvent Ctx P)) : Connection Ctx P :=
  { c with log := c.log ++ events }

def send (mode : Option Mode) (frames : List (ServerFrame P)) : Connection Ctx P :=
  if c.terminated then c else c.append (frames.map (.sent mode))

def sendError (streamId : Option String) : Connection Ctx P := c.send none [.error streamId]

def finish : Connection Ctx P := { c with activity := .idle }

def cleanupStream (streamId : String) : Connection Ctx P :=
  { c with streams := c.streams.delete streamId }

def shutdown : ConnectionStep Ctx P :=
  if c.terminated then c.quiet
  else
    { connection := { c with terminated := true, streams := .empty, pendingFrames := [] }
      jobs := []
      aborted := c.streams.values.map GatewayStream.replayPersistenceToken }

def isSubscribeCurrent (subscription : Subscription Ctx) : Bool :=
  !c.terminated &&
    c.subscribeGenerations subscription.origin.streamId = subscription.generation

def persistJobs (s : GatewayStream Ctx P) (persisted : List (List (ReplayFrame P))) :
    List (PersistJob Ctx P) :=
  persisted.map fun frames =>
    { replaySessionId := s.replaySessionId
      replayStorageStreamId := s.replayStorageStreamId
      frames
      token := s.replayPersistenceToken
      origin := s.origin
      started := false }

variable (o : HubOptions Ctx)

def jobsOf (s : GatewayStream Ctx P) (sent : Sent P) : List (PersistJob Ctx P) :=
  if o.replayStorage then persistJobs s sent.persisted else []

/-- `resyncStream`. The sends may fail so often that the connection shuts down after some of the
frames: `cut` is the number of frames sent before. -/
def resyncStreamById (streamId : String) (fromSequence : FromSequence) (view : SourceView P)
    (cut : Option Nat) : ConnectionStep Ctx P :=
  match c.streams.get streamId with
  | none => (c.sendError (some streamId)).quiet
  | some s =>
    let sent := resyncStream o.replayBufferSize s.state fromSequence view
    let c := { c with streams := c.streams.set streamId { s with state := sent.stream } }
    let jobs := jobsOf o s sent
    match cut with
    | none => ⟨c.send (some s.state.mode) sent.frames, jobs, []⟩
    | some n =>
      let last := (c.send (some s.state.mode) (sent.frames.take n)).shutdown
      { last with jobs }

def greet (lastConnectionId : Option String) : Connection Ctx P :=
  { c with
    greeted := true
    replaySessionId := replaySessionIdOf (o.replayOwnerKey c.authenticatedAuthContext)
      c.connectionId lastConnectionId }.send none [.ready c.connectionId] |>.finish

/-- `subscribeStream` up to the resolution of the scope. -/
def beginSubscribe (streamId : String) (scope : Scope) (mode : Mode)
    (fromSequence : FromSequence) : Connection Ctx P :=
  let generation := c.subscribeGenerations streamId + 1
  let origin : Origin Ctx := ⟨c.connectionId, c.authenticatedAuthContext, streamId, scope⟩
  let c := { c with subscribeGenerations := update c.subscribeGenerations streamId generation }
  { c.cleanupStream streamId with
    activity := .resolving { origin, mode, fromSequence, generation } }.append
      [.scopeResolved origin]

/-- A command finds its stream and waits for its admission, when commands are admitted. -/
def beginCommand (streamId : String) : Connection Ctx P :=
  match c.streams.get streamId with
  | none => c.sendError (some streamId)
  | some s =>
    { c with
      activity :=
        if o.commandAdmission then .admitting s.origin else .dispatching s.origin none }

def blank (streamId : String) : Bool := trim streamId = ""

/-- `receiveFrame` up to its first await. -/
def receiveFrame (frame : ClientFrame) (view : SourceView P) (cut : Option Nat) :
    ConnectionStep Ctx P :=
  match frame with
  | .hello lastConnectionId =>
    if o.auth then { c with activity := .verifying lastConnectionId }.quiet
    else (c.greet o lastConnectionId).quiet
  | .invalid => (c.sendError none).quiet
  | .ping => if c.greeted then (c.send none [.pong]).quiet else (c.sendError none).quiet
  | .unsubscribe streamId =>
    if c.greeted && !blank streamId then (c.cleanupStream streamId).quiet
    else (c.sendError none).quiet
  | .resync streamId fromSequence =>
    if c.greeted && !blank streamId then c.resyncStreamById o streamId fromSequence view cut
    else (c.sendError none).quiet
  | .command streamId =>
    if c.greeted && !blank streamId then (c.beginCommand o streamId).quiet
    else (c.sendError none).quiet
  | .subscribe streamId scope mode fromSequence =>
    if c.greeted && !blank streamId then (c.beginSubscribe streamId scope mode fromSequence).quiet
    else (c.sendError none).quiet

/-- An unsubscribe makes the running subscriptions of its stream stale when it comes in. -/
def generationsAfter : ClientFrame → String → Nat
  | .unsubscribe streamId =>
    if blank streamId then c.subscribeGenerations
    else update c.subscribeGenerations (trim streamId) (c.subscribeGenerations (trim streamId) + 1)
  | _ => c.subscribeGenerations

def ingress (frame : ClientFrame) : ConnectionStep Ctx P :=
  if o.inboundQueueLimit ≤ c.pendingFrames.length then (c.sendError none).shutdown
  else
    { c with
      subscribeGenerations := c.generationsAfter frame
      pendingFrames := c.pendingFrames ++ [frame] }.quiet

end Connection

inductive Verification (Ctx : Type)
  | accepted (authContext : Option Ctx)
  | refused
  | threw

inductive RegistrationOutcome
  | attached | failed | stale

structure Registration (P : Type) where
  latestTrace : Option (TraceProjection P)
  drafts : List (FrameDraft P)
  outcome : RegistrationOutcome

def replayFrameAddress (frame : ReplayFrame P) : Option String :=
  match frame.draft with
  | .snapshot projection => some projection.address
  | .event projection => some projection.address
  | .trace projection => some projection.address
  | .transition _ => none

/-- The last frame with an address that is not empty has that of the source. -/
def restoredReplayFramesMatchSource (frames : List (ReplayFrame P)) (source : Source) : Bool :=
  frames.isEmpty ||
    (frames.reverse.filterMap fun frame =>
      (replayFrameAddress frame).filter (· ≠ "")).head? = some source.address

namespace Connection

variable (c : Connection Ctx P) (o : HubOptions Ctx)

def verificationEnds (lastConnectionId : Option String) :
    Verification Ctx → ConnectionStep Ctx P
  | .accepted authContext =>
    let context := authContext.getD c.authContext
    (({ c with authenticatedAuthContext := context }.append [.verified context]).greet o
      lastConnectionId).quiet
  | .refused =>
    let last := ((c.append [.refused]).sendError none).shutdown
    { last with connection := last.connection.finish }
  | .threw => (c.sendError none).finish.quiet

/-- The scope is resolved to a source, or to none; a resolver that throws is `none` too. -/
def resolutionEnds (subscription : Subscription Ctx) (source : Option Source) :
    ConnectionStep Ctx P :=
  let ended : Activity Ctx P :=
    .subscribed subscription.origin.streamId subscription.fromSequence
  if c.isSubscribeCurrent subscription then
    match source with
    | none =>
      { c.sendError (some subscription.origin.streamId) with activity := ended }.quiet
    | some source =>
      { c with
        activity :=
          if subscription.mode ≠ Mode.commandOnly ∧ o.replayStorage then .loading subscription source
          else .registering subscription source [] }.quiet
  else { c with activity := ended }.quiet

def replayStorageStreamId (subscription : Subscription Ctx) : String :=
  runtimeGatewayReplayStorageStreamId o.localeLe subscription.origin.streamId
    subscription.origin.scope

def newStream (subscription : Subscription Ctx) (source : Source)
    (replayFrames : List (ReplayFrame P)) : GatewayStream Ctx P where
  state := .restored subscription.origin.streamId subscription.mode replayFrames
  source := source
  replaySessionId := c.replaySessionId
  replayStorageStreamId := replayStorageStreamId o subscription
  replayPersistenceToken := (c.connectionId, c.subscriptions)
  origin := subscription.origin

def startedState (s : GatewayStream Ctx P) (r : Registration P) : StreamState P :=
  if s.state.mode = Mode.traceOnly then { s.state with lastTrace := r.latestTrace } else s.state

def registerListeners (s : GatewayStream Ctx P) (r : Registration P) : ConnectionStep Ctx P :=
  let sent := emitDrafts o.replayBufferSize (startedState s r) r.drafts
  let c := c.send (some s.state.mode) sent.frames
  match r.outcome with
  | .attached =>
    { connection :=
        { c with streams := c.streams.set s.state.streamId { s with state := sent.stream } }
      jobs := jobsOf o s sent
      aborted := [] }
  | .failed => ⟨c.sendError (some s.state.streamId), jobsOf o s sent, []⟩
  | .stale => ⟨c, jobsOf o s sent, []⟩

def usedReplayFrames (restored : List (ReplayFrame P)) (source : Source) : List (ReplayFrame P) :=
  if restoredReplayFramesMatchSource restored source then restored else []

/-- The rest of `subscribeStream` after the restored frames are there. -/
def register (subscription : Subscription Ctx) (source : Source)
    (restored : List (ReplayFrame P)) (r : Registration P) : ConnectionStep Ctx P :=
  let streamId := subscription.origin.streamId
  let ended : Activity Ctx P := .subscribed streamId subscription.fromSequence
  if c.isSubscribeCurrent subscription then
    let used := usedReplayFrames restored source
    let started := { c.append [.restored subscription.origin source used] with
      subscriptions := c.subscriptions + 1, activity := ended }
    if subscription.mode = Mode.traceOnly ∧ source.traces = false then
      (started.sendError (some streamId)).quiet
    else started.registerListeners o (c.newStream o subscription source used) r
  else { c with activity := ended }.quiet

def emit (streamId : String) (draft : FrameDraft P) : Option (ConnectionStep Ctx P) :=
  match c.streams.get streamId with
  | none => none
  | some s =>
    let sent := emitDraft o.replayBufferSize s.state draft
    let c := { c with streams := c.streams.set streamId { s with state := sent.stream } }
    some ⟨c.send (some s.state.mode) sent.frames, jobsOf o s sent, []⟩

end Connection

inductive ConnectionAction (Ctx P : Type)
  | receive (frame : ClientFrame)
  | next (view : SourceView P) (cut : Option Nat)
  | verification (result : Verification Ctx)
  | resolution (source : Option Source)
  | load (succeeds : Bool)
  | register (registration : Registration P)
  | resume (view : SourceView P) (cut : Option Nat)
  | principal (resolves : Bool)
  | dispatch (authorized : Bool)
  | emit (streamId : String) (draft : FrameDraft P)
  | emitStatus (streamId : String) (replaying : Bool)
  | close

abbrev ReplayStorage (P : Type) := String → String → List (ReplayFrame P)

namespace Connection

variable (o : HubOptions Ctx) (storage : ReplayStorage P)

def step (c : Connection Ctx P) : ConnectionAction Ctx P → Option (ConnectionStep Ctx P)
  | .receive frame => if c.terminated then none else some (c.ingress o frame)
  | .next view cut =>
    match c.terminated, c.activity, c.pendingFrames with
    | false, .idle, frame :: rest =>
      some ({ c with pendingFrames := rest }.receiveFrame o frame view cut)
    | _, _, _ => none
  | .verification result =>
    match c.activity with
    | .verifying lastConnectionId => some (c.verificationEnds o lastConnectionId result)
    | _ => none
  | .resolution source =>
    match c.activity with
    | .resolving subscription => some (c.resolutionEnds o subscription source)
    | _ => none
  | .load succeeds =>
    match c.activity with
    | .loading subscription source =>
      let frames := storage c.replaySessionId (replayStorageStreamId o subscription)
      some { c with
        activity := .registering subscription source
          (if succeeds then trimReplayFrames o.replayBufferSize frames else []) }.quiet
    | _ => none
  | .register registration =>
    match c.activity with
    | .registering subscription source restored =>
      some (c.register o subscription source restored registration)
    | _ => none
  | .resume view cut =>
    match c.activity with
    | .subscribed _ .absent => some c.finish.quiet
    | .subscribed streamId fromSequence =>
      some (c.finish.resyncStreamById o streamId fromSequence view cut)
    | _ => none
  | .principal resolves =>
    match c.activity with
    | .admitting origin =>
      some (if resolves then
        { c with activity := .dispatching origin (some c.authenticatedAuthContext) }
      else (c.sendError (some origin.streamId)).finish).quiet
    | _ => none
  | .dispatch authorized =>
    match c.activity with
    | .dispatching origin principalContext =>
      some (if authorized then (c.append [.dispatched origin principalContext]).finish
        else (c.sendError (some origin.streamId)).finish).quiet
    | _ => none
  | .emit streamId draft => c.emit o streamId draft
  | .emitStatus streamId replaying =>
    match c.streams.get streamId with
    | some s => some (c.send (some s.state.mode) [.status streamId replaying]).quiet
    | none => none
  | .close => if c.terminated then none else some c.shutdown

end Connection

/-- A hub with its connections and the shared replay storage. `stores` lists what was stored. -/
structure Hub (Ctx P : Type) where
  connections : String → Option (Connection Ctx P)
  storage : ReplayStorage P
  replayPersistQueue : String → List (PersistJob Ctx P)
  abortedReplayPersistTokens : List (String × Nat)
  stores : List (PersistJob Ctx P)

inductive HubAction (Ctx P : Type)
  | attach (connectionId : String) (authContext : Ctx)
  | connection (connectionId : String) (action : ConnectionAction Ctx P)
  | startPersist (key : String)
  | finishPersist (key : String) (succeeds : Bool)

def isUuid (connectionId : String) : Bool :=
  connectionId.toList.all fun c => c.isAlphanum || c = '-'

namespace PersistJob

def key (job : PersistJob Ctx P) : String :=
  runtimeGatewayReplayStorageKey job.replaySessionId job.replayStorageStreamId

end PersistJob

namespace Hub

def init : Hub Ctx P where
  connections := fun _ => none
  storage := fun _ _ => []
  replayPersistQueue := fun _ => []
  abortedReplayPersistTokens := []
  stores := []

def enqueue (queue : String → List (PersistJob Ctx P)) (job : PersistJob Ctx P) :
    String → List (PersistJob Ctx P) :=
  update queue job.key (queue job.key ++ [job])

def apply (h : Hub Ctx P) (connectionId : String) (s : ConnectionStep Ctx P) : Hub Ctx P :=
  { h with
    connections := update h.connections connectionId (some s.connection)
    replayPersistQueue := s.jobs.foldl enqueue h.replayPersistQueue
    abortedReplayPersistTokens := h.abortedReplayPersistTokens ++ s.aborted }

def store (h : Hub Ctx P) (job : PersistJob Ctx P) : Hub Ctx P :=
  { h with
    storage := update h.storage job.replaySessionId
      (update (h.storage job.replaySessionId) job.replayStorageStreamId job.frames)
    stores := h.stores ++ [job] }

/-- A queued job of an aborted token is skipped when its turn comes; one that has started is not. -/
def startPersist (h : Hub Ctx P) (key : String) : Option (Hub Ctx P) :=
  match h.replayPersistQueue key with
  | [] => none
  | job :: jobs =>
    if job.started then none
    else if job.token ∈ h.abortedReplayPersistTokens then
      some { h with replayPersistQueue := update h.replayPersistQueue key jobs }
    else
      some { h with
        replayPersistQueue :=
          update h.replayPersistQueue key ({ job with started := true } :: jobs) }

def finishPersist (h : Hub Ctx P) (key : String) (succeeds : Bool) : Option (Hub Ctx P) :=
  match h.replayPersistQueue key with
  | [] => none
  | job :: jobs =>
    if job.started then
      let h := { h with replayPersistQueue := update h.replayPersistQueue key jobs }
      some (if succeeds then h.store job else h)
    else none

variable (o : HubOptions Ctx)

def step (h : Hub Ctx P) : HubAction Ctx P → Option (Hub Ctx P)
  | .attach connectionId authContext =>
    if isUuid connectionId ∧ (h.connections connectionId).isNone then
      some { h with
        connections :=
          update h.connections connectionId (some (.attached connectionId authContext)) }
    else none
  | .connection connectionId action =>
    match h.connections connectionId with
    | some c => (c.step o h.storage action).map (h.apply connectionId)
    | none => none
  | .startPersist key => h.startPersist key
  | .finishPersist key succeeds => h.finishPersist key succeeds

end Hub

namespace Connection

variable (c : Connection Ctx P)

theorem send_append (mode : Option Mode) (frames : List (ServerFrame P)) :
    ∃ events, c.send mode frames = c.append events ∧
      ∀ e ∈ events, ∃ frame ∈ frames, e = .sent mode frame := by
  unfold send
  split
  case isTrue => exact ⟨[], by simp [append], by simp⟩
  case isFalse =>
    refine ⟨frames.map (.sent mode), rfl, fun e he => ?_⟩
    obtain ⟨frame, hframe, rfl⟩ := mem_map.mp he
    exact ⟨frame, hframe, rfl⟩

theorem send_activity (mode : Option Mode) (frames : List (ServerFrame P)) :
    (c.send mode frames).activity = c.activity := by
  unfold send
  split <;> rfl

theorem mem_jobsOf {o : HubOptions Ctx} {s : GatewayStream Ctx P} {sent : Sent P}
    {job : PersistJob Ctx P} (h : job ∈ jobsOf o s sent) :
    job.frames ∈ sent.persisted ∧ job.replaySessionId = s.replaySessionId ∧
      job.replayStorageStreamId = s.replayStorageStreamId ∧ job.origin = s.origin := by
  unfold jobsOf at h
  split at h
  case isTrue =>
    obtain ⟨frames, hframes, rfl⟩ := mem_map.mp h
    exact ⟨hframes, rfl, rfl, rfl⟩
  case isFalse => exact absurd h not_mem_nil

end Connection

namespace Hub

variable {hub : Hub Ctx P}

theorem mem_enqueue {jobs : List (PersistJob Ctx P)} {queue : String → List (PersistJob Ctx P)}
    {key : String} {job : PersistJob Ctx P} (hjob : job ∈ (jobs.foldl enqueue queue) key) :
    job ∈ queue key ∨ job ∈ jobs := by
  induction jobs generalizing queue with
  | nil => exact .inl hjob
  | cons first jobs ih =>
    obtain hmem | hmem := ih hjob
    · unfold enqueue at hmem
      by_cases hkey : key = first.key
      · subst hkey
        rw [update_self] at hmem
        obtain hmem | hmem := mem_append.mp hmem
        · exact .inl hmem
        · exact .inr (mem_cons.mpr (.inl (mem_singleton.mp hmem)))
      · rw [update_of_ne hkey] at hmem
        exact .inl hmem
    · exact .inr (mem_cons_of_mem _ hmem)

/-- A property of the connections, and one of the jobs that are queued or were stored. -/
structure Holds (C : String → Connection Ctx P → Prop) (J : PersistJob Ctx P → Prop)
    (h : Hub Ctx P) : Prop where
  connections : ∀ connectionId c, h.connections connectionId = some c → C connectionId c
  queued : ∀ key, ∀ job ∈ h.replayPersistQueue key, J job
  stored : ∀ job ∈ h.stores, J job

variable {C : String → Connection Ctx P → Prop} {J : PersistJob Ctx P → Prop}

theorem holds_init : Holds C J (init : Hub Ctx P) where
  connections _ _ h := absurd h (by simp [init])
  queued _ _ h := absurd h not_mem_nil
  stored _ h := absurd h not_mem_nil

theorem holds_queue {queue : String → List (PersistJob Ctx P)}
    (hqueue : ∀ key, ∀ job ∈ queue key, J job) (key : String) {jobs : List (PersistJob Ctx P)}
    (hjobs : ∀ job ∈ jobs, J job) : ∀ key', ∀ job ∈ update queue key jobs key', J job := by
  intro key' job hjob
  by_cases hkey : key' = key
  · subst hkey
    rw [update_self] at hjob
    exact hjobs job hjob
  · rw [update_of_ne hkey] at hjob
    exact hqueue key' job hjob

variable {hub' : Hub Ctx P} {o : HubOptions Ctx} {a : HubAction Ctx P}

theorem Holds.startPersist (h : Holds C J hub) (hstarted : ∀ job, J job → J { job with started := true })
    {key : String} (hstep : hub.startPersist key = some hub') :
    Holds C J hub' := by
  unfold Hub.startPersist at hstep
  split at hstep
  case h_1 => cases hstep
  case h_2 job jobs hqueue =>
    have hjobs : ∀ other ∈ job :: jobs, J other := hqueue ▸ h.queued key
    have hhead := hjobs job (mem_cons_self ..)
    have hrest : ∀ other ∈ jobs, J other := fun other hmem => hjobs other (mem_cons_of_mem _ hmem)
    split at hstep
    case isTrue => cases hstep
    case isFalse =>
      split at hstep
      case isTrue =>
        cases hstep
        exact ⟨h.connections, holds_queue h.queued key hrest, h.stored⟩
      case isFalse =>
        cases hstep
        refine ⟨h.connections, holds_queue h.queued key fun other hmem => ?_, h.stored⟩
        obtain rfl | hmem := mem_cons.mp hmem
        · exact hstarted job hhead
        · exact hrest other hmem

theorem Holds.finishPersist (h : Holds C J hub) {key : String} {succeeds : Bool}
    (hstep : hub.finishPersist key succeeds = some hub') : Holds C J hub' := by
  unfold Hub.finishPersist at hstep
  split at hstep
  case h_1 => cases hstep
  case h_2 job jobs hqueue =>
    have hjobs : ∀ other ∈ job :: jobs, J other := hqueue ▸ h.queued key
    have hrest := holds_queue h.queued key fun other hmem =>
      hjobs other (mem_cons_of_mem _ hmem)
    split at hstep
    case isFalse => cases hstep
    case isTrue =>
      cases hstep
      cases succeeds with
      | false => exact ⟨h.connections, hrest, h.stored⟩
      | true =>
        refine ⟨h.connections, hrest, fun other hmem => ?_⟩
        obtain hmem | hmem := mem_append.mp hmem
        · exact h.stored other hmem
        · rw [mem_singleton.mp hmem]
          exact hjobs job (mem_cons_self ..)

theorem Holds.step (h : Holds C J hub) (hstarted : ∀ job, J job → J { job with started := true })
    (hattach : ∀ connectionId authContext, isUuid connectionId = true →
      C connectionId (.attached connectionId authContext))
    (hconnection : ∀ connectionId action c s, a = .connection connectionId action →
      hub.connections connectionId = some c → c.step o hub.storage action = some s →
      C connectionId s.connection ∧ ∀ job ∈ s.jobs, J job) (hstep :
    hub.step o a = some hub') : Holds C J hub' := by
  have hupdate : ∀ connectionId c, C connectionId c → ∀ connectionId' c',
      update hub.connections connectionId (some c) connectionId' = some c' → C connectionId' c' := by
    intro connectionId c hc connectionId' c' heq
    by_cases hid : connectionId' = connectionId
    · subst hid
      rw [update_self] at heq
      exact Option.some.inj heq ▸ hc
    · rw [update_of_ne hid] at heq
      exact h.connections connectionId' c' heq
  cases a with
  | attach connectionId authContext =>
    simp only [Hub.step] at hstep
    split at hstep
    case isTrue hid =>
      cases hstep
      exact ⟨hupdate connectionId _ (hattach connectionId authContext hid.1), h.queued, h.stored⟩
    case isFalse => cases hstep
  | connection connectionId action =>
    simp only [Hub.step] at hstep
    split at hstep
    case h_1 c hc =>
      obtain ⟨s, hs, rfl⟩ := Option.map_eq_some_iff.mp hstep
      obtain ⟨hkept, hjobs⟩ := hconnection connectionId action c s rfl hc hs
      refine ⟨hupdate connectionId _ hkept, fun key job hjob => ?_, h.stored⟩
      exact (mem_enqueue hjob).elim (h.queued key job) (hjobs job)
    case h_2 => cases hstep
  | startPersist key => exact h.startPersist hstarted hstep
  | finishPersist key succeeds => exact h.finishPersist hstep

def Stored (hub : Hub Ctx P) : Prop :=
  ∀ replaySessionId streamId, hub.storage replaySessionId streamId = [] ∨
    ∃ job ∈ hub.stores, job.replaySessionId = replaySessionId ∧
      job.replayStorageStreamId = streamId ∧ hub.storage replaySessionId streamId = job.frames

theorem Stored.store (h : Stored hub) (job : PersistJob Ctx P) : Stored (hub.store job) := by
  intro replaySessionId streamId
  by_cases hkey : replaySessionId = job.replaySessionId ∧ streamId = job.replayStorageStreamId
  · obtain ⟨rfl, rfl⟩ := hkey
    refine .inr ⟨job, mem_append_right _ (mem_singleton_self job), rfl, rfl, ?_⟩
    simp only [Hub.store, update_self]
  · have hsame : (hub.store job).storage replaySessionId streamId =
        hub.storage replaySessionId streamId := by
      by_cases hsession : replaySessionId = job.replaySessionId
      · subst hsession
        simp only [Hub.store, update_self]
        exact update_of_ne (fun heq => hkey ⟨rfl, heq⟩) _ _
      · simp only [Hub.store, update_of_ne hsession]
    rw [hsame]
    refine (h replaySessionId streamId).imp_right ?_
    rintro ⟨other, hmem, hother⟩
    exact ⟨other, mem_append_left _ hmem, hother⟩

theorem storage_step (hstep : hub.step o a = some hub') :
    (hub'.storage = hub.storage ∧ hub'.stores = hub.stores) ∨
      ∃ queue job, hub' = { hub with replayPersistQueue := queue }.store job := by
  cases a with
  | attach connectionId authContext =>
    simp only [Hub.step, Option.ite_none_right_eq_some, Option.some.injEq] at hstep
    obtain ⟨-, rfl⟩ := hstep
    exact .inl ⟨rfl, rfl⟩
  | connection connectionId action =>
    simp only [Hub.step] at hstep
    split at hstep
    case h_1 c hc =>
      obtain ⟨s, -, rfl⟩ := Option.map_eq_some_iff.mp hstep
      exact .inl ⟨rfl, rfl⟩
    case h_2 => cases hstep
  | startPersist key =>
    simp only [Hub.step, Hub.startPersist] at hstep
    split at hstep
    case h_1 => cases hstep
    case h_2 =>
      split at hstep
      case isTrue => cases hstep
      case isFalse =>
        split at hstep
        case isTrue =>
          cases hstep
          exact .inl ⟨rfl, rfl⟩
        case isFalse =>
          cases hstep
          exact .inl ⟨rfl, rfl⟩
  | finishPersist key succeeds =>
    simp only [Hub.step, Hub.finishPersist] at hstep
    split at hstep
    case h_1 => cases hstep
    case h_2 job jobs hqueue =>
      split at hstep
      case isFalse => cases hstep
      case isTrue =>
        cases hstep
        cases succeeds with
        | false => exact .inl ⟨rfl, rfl⟩
        | true => exact .inr ⟨_, job, rfl⟩

theorem Stored.step (h : Stored hub) (hstep : hub.step o a = some hub') : Stored hub' := by
  obtain ⟨hstorage, hstores⟩ | ⟨queue, job, rfl⟩ := storage_step hstep
  · intro replaySessionId streamId
    rw [hstorage, hstores]
    exact h replaySessionId streamId
  · have hdequeued : Stored { hub with replayPersistQueue := queue } := h
    exact hdequeued.store job

theorem stores_step (hstep : hub.step o a = some hub') : ∀ job ∈ hub.stores, job ∈ hub'.stores := by
  obtain ⟨-, hstores⟩ | ⟨queue, job, rfl⟩ := storage_step hstep
  · exact fun job hjob => hstores ▸ hjob
  · exact fun other hother => mem_append_left _ hother

end Hub

end ActorWeb.Gateway
