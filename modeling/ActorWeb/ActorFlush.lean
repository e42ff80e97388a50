import ActorWeb.ActorExclusion
import ActorWeb.ActorRegistrations

/-! `flush()` beside the processing loops and test mode. -/

namespace ActorWeb.ActorFlush

open Option List ActorSystem Supervision Transition

section Model

inductive FlushStatus
  | running
  | resolved
  | rejected
deriving DecidableEq

/-- A call of `flush`: the invocations of `processNextMessage` that it has begun, of which those of
earlier rounds are over, and what is left of a round that goes from actor to actor. -/
structure FlushCall where
  (timeout maxRounds startTime rounds : Nat)
  deliveries : List Nat
  addresses : List ActorAddress
  status : FlushStatus

/-- The system with its flushes. `paths` are the keys of `actorMailboxes`; `thrown` are the
invocations in which a handler threw, `supervised` those that asked for a supervision decision. -/
structure FlushSystem where
  system : System
  paths : List ActorAddress
  overlapping : Bool
  flushes : List FlushCall
  (thrown supervised : List Nat)

def start (maxActors : Nat) (supervisors : List SupervisorGroupConfig) (overlapping : Bool) :
    FlushSystem where
  system := ActorSystem.start maxActors supervisors
  paths := []
  overlapping := overlapping
  flushes := []
  thrown := []
  supervised := []

def mailboxSize (s : System) (p : ActorAddress) : Nat :=
  ((s.mailboxes p).bind fun box => s.boxes[box]?).elim 0 fun mailbox => mailbox.queue.length

def busyPaths (s : FlushSystem) : List ActorAddress :=
  s.paths.filter fun p => decide (0 < mailboxSize s.system p)

def hasQueuedMessages (s : FlushSystem) : Bool := !(busyPaths s).isEmpty

/-- `processNextMessage` of all the addresses at once. -/
def processAll (s : System) : List ActorAddress → System × List Nat
  | [] => (s, [])
  | p :: rest =>
    match ActorSystem.step s (.processNextMessage p) with
    | none => processAll s rest
    | some t => ((processAll t rest).1, s.invocations.length :: (processAll t rest).2)

/-- `processNextMessage` of the first address; the others have to wait for it. -/
def processInTurn (s : System) (f : FlushCall) : List ActorAddress → System × FlushCall
  | [] => (s, { f with addresses := [] })
  | p :: rest =>
    match ActorSystem.step s (.processNextMessage p) with
    | none => (s, { f with addresses := rest })
    | some t => (t, { f with addresses := rest, deliveries := s.invocations.length :: f.deliveries })

def processOneRoundOfMessages (s : FlushSystem) (f : FlushCall) : System × FlushCall :=
  if s.overlapping then
    ((processAll s.system (busyPaths s)).1,
      { f with deliveries := (processAll s.system (busyPaths s)).2 ++ f.deliveries })
  else processInTurn s.system f (busyPaths s)

/-- The loop of `flush` up to its next await, or its end. -/
def proceed (s : FlushSystem) (f : FlushCall) : System × FlushCall :=
  if !hasQueuedMessages s then (s.system, { f with status := .resolved })
  else if f.timeout < s.system.now - f.startTime then (s.system, { f with status := .rejected })
  else if f.maxRounds < f.rounds then (s.system, { f with status := .rejected })
  else processOneRoundOfMessages s { f with rounds := f.rounds + 1 }

def hasReturned (s : System) (threw : Bool) (i : Nat) : Bool :=
  s.invocations[i]?.any fun v => v.call = .returned threw

/-- A flush goes on once its deliveries are over, and fails with the first that fails. -/
def resume (s : FlushSystem) (f : FlushCall) : Option (System × FlushCall) :=
  if f.status ≠ .running then none
  else if f.deliveries.any (hasReturned s.system true) then
    some (s.system, { f with status := .rejected })
  else if f.deliveries.all (hasReturned s.system false) then
    if f.addresses.isEmpty then some (proceed s f)
    else some (processInTurn s.system f f.addresses)
  else none

inductive FlushAction
  | system (a : Action)
  | flush (timeout maxRounds : Nat)
  | advanceFlush (j : Nat)

def invocationOf (s : System) (a : Action) : Option (Nat × Invocation) :=
  a.invocation.bind fun i => s.invocations[i]?.map fun v => (i, v)

def pathsAfter (s : FlushSystem) (a : Action) (t : System) : List ActorAddress :=
  let paths :=
    match invocationOf s.system a with
    | some (_, ⟨.spawn p .broadcast, _, _⟩) => if p ∈ s.paths then s.paths else s.paths ++ [p]
    | _ => s.paths
  paths.filter fun p => (t.mailboxes p).isSome

def thrownAfter (s : FlushSystem) (a : Action) : List Nat :=
  match a, invocationOf s.system a with
  | .advance _ .threw, some (i, ⟨.deliver _ _ .handler, _, _⟩) => i :: s.thrown
  | _, _ => s.thrown

def supervisedAfter (s : FlushSystem) (a : Action) : List Nat :=
  match invocationOf s.system a with
  | some (i, ⟨.returned true, none, .processing _ _ _⟩) => i :: s.supervised
  | some (i, ⟨.returned true, none, .testing _⟩) => i :: s.supervised
  | _ => s.supervised

def step (s : FlushSystem) : FlushAction → Option FlushSystem
  | .system (.processNextMessage _) => none
  | .system a =>
    (ActorSystem.step s.system a).map fun t =>
      { s with
        system := t
        paths := pathsAfter s a t
        thrown := thrownAfter s a
        supervised := supervisedAfter s a }
  | .flush timeout maxRounds =>
    let r := proceed s
      { timeout, maxRounds, startTime := s.system.now, rounds := 0, deliveries := [], addresses := []
        status := .running }
    some { s with system := r.1, flushes := s.flushes ++ [r.2] }
  | .advanceFlush j =>
    s.flushes[j]?.bind fun f =>
      (resume s f).map fun r => { s with system := r.1, flushes := s.flushes.set j r.2 }

def inHand : Call → Bool
  | .dequeued _ _ | .deliver _ _ _ => true
  | _ => false

def Quiet (s : System) : Prop :=
  (∀ p, mailboxSize s p = 0) ∧ ∀ v ∈ s.invocations, inHand v.call = false

def Resolves (j : Nat) (s t : FlushSystem) : Prop :=
  (s.flushes[j]?.map FlushCall.status) ≠ some .resolved ∧
    (t.flushes[j]?.map FlushCall.status) = some .resolved

/-- A message whose handler threw inside of a flush was given to one supervision decision. -/
def Supervised (s : FlushSystem) : Prop :=
  ∀ f ∈ s.flushes, ∀ i ∈ f.deliveries, i ∈ s.thrown → s.supervised.count i = 1

def Barrier (s t : FlushSystem) : Prop := (∀ j, Resolves j s t → Quiet t.system) ∧ Supervised t

def busyElsewhere (s : FlushSystem) (j : Nat) : Bool :=
  s.system.invocations.zipIdx.any fun v =>
    inHand v.1.call && (v.1.base ≠ .caller ||
      s.flushes.zipIdx.any fun f => f.2 ≠ j && f.1.deliveries.contains v.2)

/-- Where a flush finds the mailboxes empty nothing is handled elsewhere, and no handler throws
inside of a flush. -/
def calm (s : FlushSystem) : FlushAction → Bool
  | .system a =>
    match a, invocationOf s.system a with
    | .advance _ .threw, some (_, ⟨.deliver _ _ .handler, _, .caller⟩) => false
    | _, _ => true
  | .flush _ _ => hasQueuedMessages s || !busyElsewhere s s.flushes.length
  | .advanceFlush j =>
    match s.flushes[j]? with
    | some f => !f.addresses.isEmpty || hasQueuedMessages s || !busyElsewhere s j
    | none => true

end Model

section Invocations

variable {s t : System} {a : Action} {i : Nat} {v : Invocation} {n : Next} {o : Outcome}
  {p : ActorAddress}

theorem inHand_cases {c : Call} (h : inHand c = true) :
    (∃ p m, c = .dequeued p m) ∨ ∃ p m stage, c = .deliver p m stage := by
  cases c with
  | dequeued p m => exact .inl ⟨p, m, rfl⟩
  | deliver p m stage => exact .inr ⟨p, m, stage, rfl⟩
  | _ => cases h

def Flushed (v : Invocation) : Prop :=
  (∃ p m, v.call = .dequeued p m) ∨ (∃ p m stage, v.call = .deliver p m stage) ∧ v.base = .caller

/-- Outside a loop and test mode a segment begins to deliver only what `processNextMessage` took. -/
structure Calls (v : Invocation) (n : Next) : Prop where
  dequeued : ∀ p m, n.request ≠ .await (.dequeued p m)
  begins : ∀ p m, n.request = .deliver p m → n.base = .caller → ∃ p m, v.call = .dequeued p m
  delivers : ∀ p m stage, n.request = .await (.deliver p m stage) →
    n.base = v.base ∧ ∃ stage', v.call = .deliver p m stage'

theorem done_calls (s : System) (v : Invocation) : Calls v s.done where
  dequeued := fun _ _ h => by cases h
  begins := fun _ _ h => by cases h
  delivers := fun _ _ _ h => by cases h

theorem supervises_calls {base : Base} (h : n.Supervises s base) (v : Invocation) : Calls v n where
  dequeued := fun p m hrequest => by
    have hsilent := h.silent
    rw [hrequest] at hsilent
    exact hsilent
  begins := fun p m hrequest => by
    have hsilent := h.silent
    rw [hrequest] at hsilent
    exact hsilent.elim
  delivers := fun p m stage hrequest => by
    have hsilent := h.silent
    rw [hrequest] at hsilent
    exact hsilent.elim

theorem processBatch_calls (s : System) (p : ActorAddress) (box processed : Nat) (v : Invocation) :
    Calls v (s.processBatch p box processed) := by
  unfold System.processBatch
  split
  case h_1 => exact done_calls _ v
  case h_2 =>
    split
    case isTrue =>
      split
      · exact ⟨fun _ _ h => (by cases h), fun _ _ _ h => (by cases h), fun _ _ _ h => (by cases h)⟩
      · exact ⟨fun _ _ h => (by cases h), fun _ _ h => (by cases h), fun _ _ _ h => (by cases h)⟩
    case isFalse => exact done_calls _ v

theorem processActorMessages_calls (s : System) (p : ActorAddress) (v : Invocation) :
    Calls v (s.processActorMessages p) := by
  unfold System.processActorMessages
  split
  case h_1 => exact done_calls _ v
  case h_2 =>
    split
    · exact processBatch_calls _ _ _ _ v
    · exact done_calls _ v

theorem enqueueMessage_calls (s : System) (p : ActorAddress) (m : Message) (o : Outcome)
    (v : Invocation) : Calls v (s.enqueueMessage p m o) := by
  have hmailbox : Calls v (s.enqueueMessage p m .ok) := by
    simp only [System.enqueueMessage]
    split
    case h_1 => exact done_calls _ v
    case h_2 =>
      split
      case h_1 =>
        unfold System.deliverInTestMode
        split
        · split
          · exact done_calls _ v
          · exact ⟨fun _ _ h => (by cases h), fun _ _ _ h => (by cases h), fun _ _ _ h => (by cases h)⟩
        · exact done_calls _ v
      case h_2 => exact done_calls _ v
  cases o with
  | ok | threw => exact hmailbox
  | filtered | missing => exact done_calls _ v

theorem resume_calls {threw : Bool} (h : s.resume i threw v.driver v.base = some n) : Calls v n := by
  unfold System.resume at h
  split at h
  case h_1 driver hdriver =>
    cases h
    by_cases hfinishing : driver = .finishing
    · subst hfinishing
      simp only [System.resumeDriver]
      split
      · exact processBatch_calls s _ _ _ v
      · exact done_calls s v
    · exact supervises_calls (resumeDriver_supervises s i v.base threw hfinishing) v
  case h_2 =>
    split at h
    · exact some.inj h ▸ supervises_calls (applySupervisionStrategy_supervises s i _ _) v
    · exact some.inj h ▸ processBatch_calls s _ _ _ v
  case h_3 =>
    split at h
    · exact some.inj h ▸ supervises_calls (applySupervisionStrategy_supervises s i _ _) v
    · exact some.inj h ▸ done_calls s v
  case h_4 => cases h

theorem next_calls (h : s.next i o v = some n) : Calls v n := by
  obtain ⟨call, driver, base⟩ := v
  cases call with
  | stop p reason stage =>
    cases h
    refine ⟨fun q m he => ?_, fun _ _ he => (by cases he), fun q m _ he => ?_⟩
    · obtain ⟨_, hcall⟩ | ⟨_, hcall⟩ := advanceStop_call s p reason stage <;>
        exact Call.noConfusion (hcall.symm.trans (Request.await.inj he))
    · obtain ⟨_, hcall⟩ | ⟨_, hcall⟩ := advanceStop_call s p reason stage <;>
        exact Call.noConfusion (hcall.symm.trans (Request.await.inj he))
  | spawn p stage =>
    cases h
    refine ⟨fun q m he => ?_, fun _ _ he => (by cases he), fun q m _ he => ?_⟩
    · cases stage <;> cases Request.await.inj he
    · cases stage <;> cases Request.await.inj he
  | deliver p m stage =>
    cases h
    have hcall := (advanceDeliver_call s p m stage o).2.2.2
    refine ⟨fun q m' he => ?_, fun _ _ he => (by cases he), fun q m' stage' he => ?_⟩
    · obtain ⟨_, hcall⟩ | ⟨_, hcall⟩ := hcall <;>
        exact Call.noConfusion (hcall.symm.trans (Request.await.inj he))
    · obtain ⟨_, hcall⟩ | ⟨_, hcall⟩ := hcall
      · exact Call.noConfusion (hcall.symm.trans (Request.await.inj he))
      · obtain ⟨rfl, rfl, rfl⟩ := Call.deliver.inj (hcall.symm.trans (Request.await.inj he))
        exact ⟨rfl, stage, rfl⟩
  | enqueue p m =>
    cases h
    exact enqueueMessage_calls s p m o _
  | dequeued p m =>
    cases h
    exact ⟨fun _ _ he => (by cases he), fun _ _ _ _ => ⟨p, m, rfl⟩, fun _ _ _ he => (by cases he)⟩
  | timer due =>
    simp only [System.next] at h
    split at h
    · cases h
      exact ⟨fun _ _ he => (by cases he), fun _ _ he => (by cases he), fun _ _ _ he => (by cases he)⟩
    · cases h
  | systemEvent =>
    cases h
    exact ⟨fun _ _ he => (by cases he), fun _ _ he => (by cases he), fun _ _ _ he => (by cases he)⟩
  | macrotask =>
    simp only [System.next] at h
    split at h
    · cases h
      exact processActorMessages_calls s _ _
    · cases h
  | returned threw => exact resume_calls h

theorem next_flushed (h : s.next i o v = some n)
    (hflushed : Flushed ⟨(n.system.perform n.request).2, n.driver, n.base⟩) : Flushed v := by
  have hcalls := next_calls h
  have hperform := perform_call n.system n.request
  obtain ⟨p, m, hcall⟩ | ⟨⟨p, m, stage, hcall⟩, hbase⟩ := hflushed
  · exact absurd (hperform.2 p m hcall) (hcalls.dequeued p m)
  · obtain hrequest | hrequest := hperform.1 p m stage hcall
    · exact .inl (hcalls.begins p m hrequest hbase)
    · obtain ⟨hsame, stage', hcall'⟩ := hcalls.delivers p m stage hrequest
      exact .inr ⟨⟨p, m, stage', hcall'⟩, hsame.symm.trans hbase⟩

theorem step_flushed (ha : ∀ p, a ≠ .processNextMessage p) (h : ActorSystem.step s a = some t)
    {k : Nat} {w : Invocation} (hw : t.invocations[k]? = some w) (hflushed : Flushed w) :
    ∃ v, s.invocations[k]? = some v ∧ Flushed v := by
  have hinvoke : ∀ {u : System} {request : Request}, u.invocations = s.invocations →
      t = u.invoke request → (∀ p m, request ≠ .deliver p m) →
      (∀ c, request = .await c → ∃ p m, c = .enqueue p m) →
      ∃ v, s.invocations[k]? = some v ∧ Flushed v := by
    rintro u request hu rfl hdeliver hawait
    rw [System.invoke, perform_invocations, hu] at hw
    change (s.invocations ++ _)[k]? = some w at hw
    rw [getElem?_append] at hw
    split at hw
    · exact ⟨w, hw, hflushed⟩
    · obtain rfl := mem_singleton.mp (mem_of_getElem? hw)
      have hperform := perform_call u request
      obtain ⟨p, m, hcall⟩ | ⟨⟨p, m, stage, hcall⟩, -⟩ := hflushed
      · obtain ⟨_, _, hc⟩ := hawait _ (hperform.2 p m hcall)
        cases hc
      · obtain hrequest | hrequest := hperform.1 p m stage hcall
        · exact absurd hrequest (hdeliver p m)
        · obtain ⟨_, _, hc⟩ := hawait _ hrequest
          cases hc
  cases a with
  | tick | setTestMode | setSystemEventActor | stopSystem =>
    cases h
    exact ⟨w, hw, hflushed⟩
  | spawn q behavior policy =>
    exact hinvoke rfl (some.inj h).symm (fun _ _ he => by cases he) fun _ he => by cases he
  | stop q =>
    exact hinvoke (u := s.record (.userStop q)) rfl (some.inj h).symm
      (fun _ _ he => by cases he) fun _ he => by cases he
  | stopInternal q =>
    simp only [ActorSystem.step] at h
    split at h
    case isTrue =>
      exact hinvoke (u := s.record (.userStop q)) rfl (some.inj h).symm
        (fun _ _ he => by cases he) fun _ he => by cases he
    case isFalse => cases h
  | enqueueMessage q =>
    exact hinvoke (u := { s with given := ⟨s.given.length, q⟩ :: s.given }) rfl
      (some.inj h).symm (fun _ _ he => by cases he)
      fun c he => ⟨q, _, (Request.await.inj he).symm⟩
  | processNextMessage q => exact absurd rfl (ha q)
  | advance i o =>
    obtain ⟨v, n, hv, hn, -, rfl⟩ := advance_inv h
    obtain ⟨vs, hvs, hnew⟩ := next_appends hn
    have hlt : i < n.system.invocations.length := by
      rw [hvs, length_append]
      exact Nat.lt_add_right _ (List.getElem?_eq_some_iff.mp hv).1
    simp only [Next.settle, perform_invocations] at hw
    by_cases hk : i = k
    · subst hk
      rw [getElem?_set_self hlt] at hw
      cases hw
      exact ⟨v, hv, next_flushed hn hflushed⟩
    · rw [getElem?_set_ne hk, hvs, getElem?_append] at hw
      split at hw
      · exact ⟨w, hw, hflushed⟩
      · have hcall := (hnew w (mem_of_getElem? hw)).1
        obtain ⟨p, m, hc⟩ | ⟨⟨p, m, stage, hc⟩, -⟩ := hflushed <;>
          exact Call.noConfusion (hcall.symm.trans hc)

def Delivery (s : System) (i : Nat) : Prop :=
  ∃ v, s.invocations[i]? = some v ∧ v.driver = none ∧ v.base = .caller ∧
    (inHand v.call = true ∨ ∃ threw, v.call = .returned threw)

theorem beginDeliver_call (s : System) (p : ActorAddress) (m : Message) :
    (s.beginDeliver p m).2 = .deliver p m .interceptors ∨
      (s.beginDeliver p m).2 = .returned true := by
  unfold System.beginDeliver
  split
  · exact .inl rfl
  · exact .inr rfl

theorem step_delivery (h : ActorSystem.step s a = some t) (hi : Delivery s i) : Delivery t i := by
  obtain ⟨v, hv, hdriver, hbase, hcall⟩ := hi
  by_cases ha : a.invocation = some i
  case neg => exact ⟨v, step_invocation h ha hv, hdriver, hbase, hcall⟩
  case pos =>
    cases a with
    | advance k o =>
      obtain rfl : k = i := some.inj ha
      obtain ⟨n, hn, -, -, hw⟩ := advance_invocation h hv
      obtain ⟨call, driver, base⟩ := v
      obtain rfl : driver = none := hdriver
      obtain rfl : base = .caller := hbase
      refine ⟨_, hw, ?_⟩
      obtain (⟨p, m, rfl⟩ | ⟨p, m, stage, rfl⟩) | ⟨threw, rfl⟩ := hcall.imp_left inHand_cases
      · cases hn
        refine ⟨rfl, rfl, (beginDeliver_call s p m).imp (fun hc => ?_) fun hc => ⟨true, hc⟩⟩
        exact congrArg inHand hc
      · cases hn
        refine ⟨rfl, rfl, (advanceDeliver_call s p m stage o).2.2.2.symm.imp_left ?_⟩
        exact fun hc => hc.elim fun stage' hc => congrArg inHand hc
      · cases hn
    | _ => cases ha

theorem emitSystemEvent_mailboxes (s : System) (e : SystemEvent) (p : ActorAddress) :
    (s.emitSystemEvent e p).mailboxes = s.mailboxes := by
  unfold System.emitSystemEvent
  split <;> rfl

theorem processBatch_mailboxes (s : System) (p : ActorAddress) (box processed : Nat) :
    (s.processBatch p box processed).system.mailboxes = s.mailboxes := by
  unfold System.processBatch
  split
  case h_1 => rfl
  case h_2 =>
    split
    case isTrue => split <;> rfl
    case isFalse => rfl

theorem enqueueMessage_mailboxes (s : System) (p : ActorAddress) (m : Message) (o : Outcome) :
    (s.enqueueMessage p m o).system.mailboxes = s.mailboxes := by
  have hwake : ∀ u : System, (u.wake p).mailboxes = u.mailboxes := by
    intro u
    unfold System.wake
    split <;> rfl
  have htest : ∀ (u : System) (box : Nat),
      (u.deliverInTestMode p box).system.mailboxes = u.mailboxes := by
    intro u box
    unfold System.deliverInTestMode
    split
    · split <;> rfl
    · rfl
  have hmailbox : (s.enqueueMessage p m .ok).system.mailboxes = s.mailboxes := by
    simp only [System.enqueueMessage]
    split
    case h_1 => rfl
    case h_2 =>
      split
      case h_1 => exact (htest _ _).trans (hwake _)
      case h_2 => rfl
  cases o with
  | ok | threw => exact hmailbox
  | filtered | missing => rfl

theorem teardown_mailboxes (s : System) (q : ActorAddress)
    (hp : ((s.teardown q).mailboxes p).isSome) : (s.mailboxes p).isSome := by
  change ((s.stopMailbox q).mailboxes p).isSome at hp
  unfold System.stopMailbox at hp
  split at hp
  case h_1 => exact hp
  case h_2 =>
    split at hp
    case h_1 => exact hp
    case h_2 =>
      change (Function.update s.mailboxes q none p).isSome at hp
      by_cases h : p = q
      · subst h
        rw [Function.update_self] at hp
        cases hp
      · rwa [Function.update_of_ne h] at hp

theorem next_mailboxes (h : s.next i o v = some n) (hp : (n.system.mailboxes p).isSome) :
    (s.mailboxes p).isSome ∨ v.call = .spawn p .broadcast := by
  have hkept : n.system.mailboxes = s.mailboxes →
      (s.mailboxes p).isSome ∨ v.call = .spawn p .broadcast := fun heq => .inl (heq ▸ hp)
  obtain ⟨call, driver, base⟩ := v
  cases call with
  | stop q reason stage =>
    cases h
    cases stage with
    | stoppingEvent =>
      simp only [System.advanceStop] at hp
      split at hp
      · exact .inl hp
      · exact .inl (teardown_mailboxes s q hp)
    | onStop => exact .inl (teardown_mailboxes s q hp)
    | publish | unregister | stoppedEvent => exact .inl hp
    | broadcast => exact hkept (emitSystemEvent_mailboxes s _ q)
  | spawn q stage =>
    cases h
    cases stage with
    | register | spawnedEvent => exact .inl hp
    | broadcast =>
      change (((s.startProcessing q).emitSystemEvent .actorSpawned q).mailboxes p).isSome at hp
      rw [emitSystemEvent_mailboxes] at hp
      change (Function.update s.mailboxes q (some s.boxes.length) p).isSome at hp
      by_cases hq : p = q
      · exact .inr (hq ▸ rfl)
      · exact .inl (by rwa [Function.update_of_ne hq] at hp)
  | deliver q m stage =>
    cases h
    refine hkept ?_
    cases stage with
    | interceptors =>
      cases o with
      | filtered => rfl
      | ok | threw | missing =>
        simp only [System.advanceDeliver]
        split <;> rfl
    | onStart => cases o <;> rfl
    | handler => cases o <;> rfl
  | enqueue q m =>
    cases h
    exact hkept (enqueueMessage_mailboxes s q m o)
  | dequeued q m =>
    cases h
    exact .inl hp
  | timer due =>
    simp only [System.next] at h
    split at h
    · cases h
      exact .inl hp
    · cases h
  | systemEvent =>
    cases h
    exact .inl hp
  | macrotask =>
    simp only [System.next] at h
    split at h
    case h_1 q =>
      cases h
      refine hkept ?_
      unfold System.processActorMessages
      split
      case h_1 => rfl
      case h_2 =>
        split
        · exact processBatch_mailboxes _ _ _ _
        · rfl
    case h_2 => cases h
  | returned threw =>
    simp only [System.next, System.resume] at h
    split at h
    case h_1 d =>
      cases h
      by_cases hfinishing : d = .finishing
      · subst hfinishing
        refine hkept ?_
        simp only [System.resumeDriver]
        split
        · exact processBatch_mailboxes s _ _ _
        · rfl
      · exact hkept (resumeDriver_supervises s i base threw hfinishing).untouched.mailboxes
    case h_2 =>
      split at h
      · cases h
        exact hkept (applySupervisionStrategy_supervises s i _ _).untouched.mailboxes
      · cases h
        exact hkept (processBatch_mailboxes s _ _ _)
    case h_3 =>
      split at h
      · cases h
        exact hkept (applySupervisionStrategy_supervises s i _ _).untouched.mailboxes
      · cases h
        exact .inl hp
    case h_4 => cases h

theorem perform_mailboxes (s : System) (request : Request) :
    (s.perform request).1.mailboxes = s.mailboxes := by
  cases request with
  | await call => rfl
  | stop q reason => exact emitSystemEvent_mailboxes s .actorStopping q
  | spawn q behavior policy =>
    simp only [System.perform, System.beginSpawn]
    split <;> rfl
  | deliver q m =>
    simp only [System.perform, System.beginDeliver]
    split <;> rfl

theorem step_mailboxes (h : ActorSystem.step s a = some t) (hp : (t.mailboxes p).isSome) :
    (s.mailboxes p).isSome ∨
      ∃ i v, invocationOf s a = some (i, v) ∧ v.call = .spawn p .broadcast := by
  have hkept : t.mailboxes = s.mailboxes → (s.mailboxes p).isSome ∨
      ∃ i v, invocationOf s a = some (i, v) ∧ v.call = .spawn p .broadcast :=
    fun heq => .inl (heq ▸ hp)
  cases a with
  | tick | setTestMode | setSystemEventActor | stopSystem =>
    cases h
    exact .inl hp
  | spawn q behavior policy =>
    cases h
    exact hkept (perform_mailboxes s _)
  | stop q =>
    cases h
    exact hkept (perform_mailboxes (s.record (.userStop q)) _)
  | stopInternal q =>
    simp only [ActorSystem.step] at h
    split at h
    case isTrue =>
      cases h
      exact hkept (perform_mailboxes (s.record (.userStop q)) _)
    case isFalse => cases h
  | enqueueMessage q =>
    cases h
    exact .inl hp
  | processNextMessage q =>
    simp only [ActorSystem.step] at h
    split at h
    case h_1 => cases h
    case h_2 =>
      cases h
      exact .inl hp
  | advance i o =>
    obtain ⟨v, n, hv, hn, -, rfl⟩ := advance_inv h
    have hp : (n.system.mailboxes p).isSome := by
      have hsettle : (n.settle i).mailboxes = n.system.mailboxes :=
        perform_mailboxes n.system n.request
      rwa [hsettle] at hp
    refine (next_mailboxes hn hp).imp_right fun hcall => ⟨i, v, ?_, hcall⟩
    simp [invocationOf, Action.invocation, hv]

end Invocations

end ActorWeb.ActorFlush
