import ActorWeb.TransportTicks
import ActorWeb.TransportNumbering

/-! The frames that a node hands to its links, and the steps that hand none over. -/

namespace ActorWeb.TransportTransmissions

open Function TransportContract TransportCore TransportQuiet TransportMoves TransportNumbering
open TransportTicks Trace

def handed (p : Nat) (id : String) (log : List Event) : Nat :=
  log.countP fun
    | .linkSend q frame => q = p && frame.messageId = id
    | _ => false

def retries (p : Nat) (id : String) (log : List Event) : Nat := log.count (.retryScheduled p id)

def waiting (c : Core) (p : Nat) (id : String) : Nat :=
  (c.records p).outboundQueue.countP fun item => item.frame.messageId = id

/-- A frame reaches the link again, or after lower numbers only, and is not retried after
a give-up. -/
def Orderly (pre : List Event) : Event → Prop
  | .linkSend p frame =>
    .linkSend p frame ∈ pre ∨ ∀ g, .linkSend p g ∈ pre → g.sequence < frame.sequence
  | .retryScheduled p id | .retryExhausted p id => .retryExhausted p id ∉ pre
  | _ => True

def Silent : Event → Prop
  | .linkSend _ _ | .retryScheduled _ _ | .retryExhausted _ _ => False
  | _ => True

theorem silent_of_neutral {e : Event} (h : Neutral e) : Silent e := by
  cases e <;> trivial

/-- Nothing is queued, handed over or watched, and no retry timer is set. -/
structure Lesser (c c' : Core) : Prop where
  config : c'.config = c.config
  nextPending : c'.nextPending = c.nextPending
  queue : ∀ p, (c'.records p).outboundQueue = (c.records p).outboundQueue ∨
    (c'.records p).outboundQueue = []
  pendingAcks : ∀ p id i, (c'.records p).pendingAcks.get id = some i →
    (c.records p).pendingAcks.get id = some i
  frame : ∀ i, (c'.pendings i).frame = (c.pendings i).frame
  attempts : ∀ i, (c'.pendings i).attempts = (c.pendings i).attempts
  timers : ∀ t a p i, c'.timers t = some (.ackRetry a p i) →
    c.timers t = some (.ackRetry a p i) ∧ (c'.pendings i).timer = (c.pendings i).timer
  jobs : ∀ j a p item, c'.jobs j = some (.drainSend a p item) →
    c.jobs j = some (.drainSend a p item)
  log : ∃ new, c'.log = c.log ++ new ∧ ∀ e ∈ new, Silent e

namespace Lesser

variable {c c' c'' : Core}

theorem refl (c : Core) : Lesser c c :=
  ⟨rfl, rfl, fun _ => .inl rfl, fun _ _ _ => id, fun _ => rfl, fun _ => rfl,
    fun _ _ _ _ h => ⟨h, rfl⟩, fun _ _ _ _ => id, [], by simp⟩

theorem trans (l : Lesser c c') (l' : Lesser c' c'') : Lesser c c'' where
  config := l'.config.trans l.config
  nextPending := l'.nextPending.trans l.nextPending
  queue p := by
    obtain hsame | hempty := l'.queue p
    · rw [hsame]
      exact l.queue p
    · exact .inr hempty
  pendingAcks p id i h := l.pendingAcks p id i (l'.pendingAcks p id i h)
  frame i := (l'.frame i).trans (l.frame i)
  attempts i := (l'.attempts i).trans (l.attempts i)
  timers t a p i h := by
    obtain ⟨hmiddle, hlast⟩ := l'.timers t a p i h
    obtain ⟨hfirst, htimer⟩ := l.timers t a p i hmiddle
    exact ⟨hfirst, hlast.trans htimer⟩
  jobs j a p item h := l.jobs j a p item (l'.jobs j a p item h)
  log := by
    obtain ⟨new, hnew, hsilent⟩ := l.log
    obtain ⟨new', hnew', hsilent'⟩ := l'.log
    refine ⟨new ++ new', by rw [hnew', hnew, List.append_assoc], fun e he => ?_⟩
    exact (List.mem_append.mp he).elim (hsilent e) (hsilent' e)

theorem mem_log (l : Lesser c c') {e : Event} (he : ¬ Silent e) : e ∈ c'.log ↔ e ∈ c.log := by
  obtain ⟨new, hnew, hsilent⟩ := l.log
  rw [hnew, List.mem_append, or_iff_left fun h => he (hsilent e h)]

theorem linkSend_mem (l : Lesser c c') {p : Nat} {f : RuntimeTransportFrame} :
    .linkSend p f ∈ c'.log ↔ .linkSend p f ∈ c.log := l.mem_log id

theorem retryScheduled_mem (l : Lesser c c') {p : Nat} {id : String} :
    .retryScheduled p id ∈ c'.log ↔ .retryScheduled p id ∈ c.log := l.mem_log fun h => h

theorem retryExhausted_mem (l : Lesser c c') {p : Nat} {id : String} :
    .retryExhausted p id ∈ c'.log ↔ .retryExhausted p id ∈ c.log := l.mem_log fun h => h

theorem handed_eq (l : Lesser c c') (p : Nat) (id : String) :
    handed p id c'.log = handed p id c.log := by
  obtain ⟨new, hnew, hsilent⟩ := l.log
  have hnone : handed p id new = 0 := by
    refine List.countP_eq_zero.mpr fun e he => ?_
    have hsilentE := hsilent e he
    cases e with
    | linkSend q frame => exact hsilentE.elim
    | _ => exact Bool.false_ne_true
  rw [hnew, handed, List.countP_append]
  exact (congrArg (_ + ·) hnone).trans (Nat.add_zero _)

theorem retries_eq (l : Lesser c c') (p : Nat) (id : String) :
    retries p id c'.log = retries p id c.log := by
  obtain ⟨new, hnew, hsilent⟩ := l.log
  have hnone : new.count (.retryScheduled p id) = 0 :=
    List.count_eq_zero.mpr fun h => hsilent _ h
  rw [hnew, retries, List.count_append, hnone, Nat.add_zero]
  rfl

theorem waiting_le (l : Lesser c c') (p : Nat) (id : String) : waiting c' p id ≤ waiting c p id := by
  rw [waiting, waiting]
  obtain hsame | hempty := l.queue p
  · rw [hsame]
  · rw [hempty]
    exact Nat.zero_le _

theorem mem_queue (l : Lesser c c') {p : Nat} {item : OutboundQueueItem}
    (h : item ∈ (c'.records p).outboundQueue) : item ∈ (c.records p).outboundQueue := by
  obtain hsame | hempty := l.queue p
  · rwa [hsame] at h
  · rw [hempty] at h
    cases h

theorem disciplined (l : Lesser c c') (h : Disciplined Orderly c.log) :
    Disciplined Orderly c'.log := by
  obtain ⟨new, hnew, hsilent⟩ := l.log
  rw [hnew]
  refine (disciplined_append fun more e he _ => ?_).mpr h
  have hsilentE := hsilent e he
  cases e with
  | linkSend | retryScheduled | retryExhausted => exact hsilentE.elim
  | _ => trivial

theorem modifyRecord (c : Core) (p : Nat) {f : Peer → Peer}
    (hqueue : (f (c.records p)).outboundQueue = (c.records p).outboundQueue ∨
      (f (c.records p)).outboundQueue = [])
    (hacks : ∀ id i, (f (c.records p)).pendingAcks.get id = some i →
      (c.records p).pendingAcks.get id = some i) : Lesser c (c.modifyRecord p f) := by
  refine { refl c with queue := fun q => ?_, pendingAcks := fun q id i h => ?_ }
  · obtain rfl | hne := eq_or_ne q p
    · rw [Core.modifyRecord_records_self]
      exact hqueue
    · rw [Core.modifyRecord_records_ne c f hne]
      exact .inl rfl
  · obtain rfl | hne := eq_or_ne q p
    · rw [Core.modifyRecord_records_self] at h
      exact hacks id i h
    · rwa [Core.modifyRecord_records_ne c f hne] at h

theorem emit (c : Core) {e : Event} (he : Silent e) : Lesser c (c.emit e) :=
  { refl c with log := ⟨[e], rfl, by simpa using he⟩ }

theorem addJob (c : Core) {job : Job} (hjob : ∀ a p item, job ≠ .drainSend a p item) :
    Lesser c (c.addJob job) := by
  refine { refl c with jobs := fun j a p item h => ?_ }
  obtain rfl | hne := eq_or_ne j c.nextJob
  · simp only [Core.addJob, Core.setJob, update_self, Option.some.injEq] at h
    exact absurd h (hjob a p item)
  · simpa only [Core.addJob, Core.setJob, update_of_ne hne] using h

theorem dropJob (c : Core) (j : Nat) : Lesser c (c.setJob j none) := by
  refine { refl c with jobs := fun j' a p item h => ?_ }
  obtain rfl | hne := eq_or_ne j' j
  · simp [Core.setJob] at h
  · simpa only [Core.setJob, update_of_ne hne] using h

theorem setTimer (c : Core) (t : Nat) {task : Option TimerTask}
    (htask : ∀ a p i, task ≠ some (.ackRetry a p i)) : Lesser c (c.setTimer t task) := by
  refine { refl c with timers := fun t' a p i h => ⟨?_, rfl⟩ }
  obtain rfl | hne := eq_or_ne t' t
  · simp only [Core.setTimer, update_self] at h
    exact absurd h (htask a p i)
  · simpa only [Core.setTimer, update_of_ne hne] using h

theorem forgetTimer (c : Core) {i : Nat} (hfree : ∀ t a p, c.timers t ≠ some (.ackRetry a p i)) :
    Lesser c (c.modifyPending i fun a => { a with timer := none }) := by
  have hother : ∀ j, j ≠ i → (c.modifyPending i fun a => { a with timer := none }).pendings j =
      c.pendings j := fun j hj => update_of_ne hj _ _
  have hself : (c.modifyPending i fun a => { a with timer := none }).pendings i =
      { c.pendings i with timer := none } := update_self _ _ _
  refine { refl c with
    frame := fun j => ?_, attempts := fun j => ?_, timers := fun t a p j ht => ⟨ht, ?_⟩ }
  · obtain rfl | hj := eq_or_ne j i
    · rw [hself]
    · rw [hother j hj]
  · obtain rfl | hj := eq_or_ne j i
    · rw [hself]
    · rw [hother j hj]
  · obtain rfl | hj := eq_or_ne j i
    · exact absurd ht (hfree t a p)
    · rw [hother j hj]

theorem of_tick (h : Tick c c') : Lesser c c' := by
  cases h with
  | stats s h | link l f | newLink l | microtask a p | clock now => exact { refl c with }
  | record p f h =>
    exact modifyRecord c p (.inl h.outboundQueue) fun id i hi => by rwa [h.pendingAcks] at hi
  | remove a p h =>
    have hrecord : Lesser c (c.modifyRecord p fun r => { r with outboundQueue := [] }) :=
      modifyRecord c p (.inr rfl) fun _ _ => id
    exact { hrecord with }
  | forget p =>
    exact modifyRecord c p (.inl rfl) fun id i hi => by simp [OrderedMap.get, OrderedMap.empty] at hi
  | dropTimer t => exact setTimer c t (by simp)
  | addTimer task h =>
    have hset : Lesser c (c.setTimer c.nextTimer (some task)) := by
      refine setTimer c _ fun a p i htask => ?_
      cases htask
      exact h
    exact { hset with }
  | addJob job h =>
    refine addJob c fun a p item hjob => ?_
    subst hjob
    exact h
  | dropJob j h => exact dropJob c j
  | emit e h => exact emit c (silent_of_neutral h)

theorem of_ticks (h : Ticks c c') : Lesser c c' := by
  induction h with
  | refl => exact refl c
  | tail _ hlast ih => exact ih.trans (of_tick hlast)

theorem remember (c : Core) (p : Nat) (messageId : String) : Lesser c (c.modifyRecord p fun r =>
      { r with idempotencyCache := (r.idempotencyCache.remember messageId).1 }) :=
  modifyRecord c p (.inl rfl) fun _ _ => id

theorem claim (c : Core) (a : String) (p : Nat) (frame : RuntimeTransportFrame) :
    Lesser c (claim c a p frame) := by
  have harrived : Lesser c (c.emit (.arrived c.nextJob p frame)) := emit c trivial
  unfold TransportCore.claim
  simp only
  split
  · exact { harrived with }
  · split
    · exact { harrived.trans (remember _ p frame.messageId) with }
    · exact harrived.trans (addJob _ (by simp))

theorem claimAnswered (c : Core) (j : Nat) (a : String) (p : Nat) (frame : RuntimeTransportFrame)
    (answer : ClaimAnswer) : Lesser c (claimAnswered c j a p frame answer) := by
  have hremembered := remember c p frame.messageId
  cases answer with
  | claimed => exact { hremembered.trans (emit _ (e := .claimAnswered j p _ false) trivial) with }
  | duplicate => exact { hremembered.trans (emit _ (e := .claimAnswered j p _ true) trivial) with }
  | error => exact { refl c with }

theorem recordFrameReceived (c : Core) (a : String) (p : Nat) (frame : RuntimeTransportFrame) :
    Lesser c (recordFrameReceived c a p frame) := by
  have hrecord : Lesser c (c.modifyRecord p fun r =>
      { r with lastReceivedSequence := max r.lastReceivedSequence frame.sequence }) :=
    modifyRecord c p (.inl rfl) fun _ _ => id
  unfold TransportCore.recordFrameReceived
  split
  · exact { hrecord with }
  · exact { hrecord with }

theorem claimResumed (c : Core) (j : Nat) (a : String) (p : Nat) (frame : RuntimeTransportFrame)
    (outcome : ClaimOutcome) : Lesser c (claimResumed c j a p frame outcome) := by
  obtain ⟨-, h⟩ | ⟨-, c₁, hbefore, hafter⟩ := claimResumed_ticks c j a p frame outcome
  · exact of_ticks h
  · exact ((of_ticks hbefore).trans (recordFrameReceived c₁ a p frame)).trans (of_ticks hafter)

theorem register (c : Core) (link : Nat) (identity : RuntimeNodeIdentity) :
    Lesser c (addPeer c link identity) := by
  refine { refl c with queue := fun p => ?_, pendingAcks := fun p id i h => ?_ }
  · obtain rfl | hne := eq_or_ne p c.nextRecord
    · exact .inr (by simp [addPeer])
    · exact .inl (by simp [addPeer, update_of_ne hne])
  · obtain rfl | hne := eq_or_ne p c.nextRecord
    · simp [addPeer, OrderedMap.get, OrderedMap.empty] at h
    · simpa [addPeer, update_of_ne hne] using h

end Lesser

section Unsent

variable {c c' : Core}

theorem unsent_of_tick (h : Tick c c') : Unsent c c' := by
  cases h with
  | stats s h | link l f | newLink l | dropTimer t | addTimer task h | addJob job h | dropJob j h
  | microtask a p | clock now => exact { Unsent.refl c with }
  | record p f h => exact .modifyRecord c p h.identity h.sequence
  | remove a p h =>
    have hrecord : Unsent c (c.modifyRecord p fun r => { r with outboundQueue := [] }) :=
      .modifyRecord c p rfl rfl
    exact { hrecord with }
  | forget p => exact .modifyRecord c p rfl rfl
  | emit e h =>
    refine .emit c fun p f he => ?_
    subst he
    exact h

end Unsent

end ActorWeb.TransportTransmissions
