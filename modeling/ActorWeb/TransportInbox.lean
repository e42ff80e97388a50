import ActorWeb.TransportWire
import ActorWeb.TransportInbound

/-! The claims of the frames that arrive on one record, and the gaps seen between them. -/

namespace ActorWeb.TransportInbox

open Function List TransportContract TransportCore TransportQuiet TransportOwnership TransportMoves
open TransportNumbering TransportTicks TransportTransmissions TransportInbound TransportWire SequenceNumbers

def arrivals (q : Nat) (c : Core) : List RuntimeTransportFrame := (arrivedOn q c.log).map Prod.snd

def accepted (q : Nat) (c : Core) : List Nat := (queuedOn q c.microtasks).map (·.2.sequence)

def isClaimOf (q : Nat) : Option Job → Bool
  | some (.claiming _ p _) => p = q
  | _ => false

def claimedOn (q : Nat) (c : Core) (key : String) : Bool :=
  c.log.any fun
    | .claimAnswered _ p key' false => p = q && key' = key
    | _ => false

/-- The provider answers the claims of the record in the order in which it was asked, fails
none, and answers `duplicate` only for a key that was claimed before. -/
def answersInOrder (q : Nat) (c : Core) : Action → Bool
  | .providerAnswers job answer =>
    match c.jobs job with
    | some (.claiming _ _ frame) =>
      (List.range job).all (fun j => !isClaimOf q (c.jobs j)) &&
        match answer with
        | .claimed => true
        | .duplicate =>
          claimedOn q c (idempotencyKey c.config.identity (c.records q).identity frame)
        | .error => false
    | _ => true
  | _ => true

theorem claimedOn_iff {q : Nat} {c : Core} {key : String} :
    claimedOn q c key = true ↔ ∃ j, .claimAnswered j q key false ∈ c.log := by
  simp only [claimedOn, any_eq_true]
  constructor
  · rintro ⟨e, he, h⟩
    cases e with
    | claimAnswered j p key' duplicate =>
      cases duplicate with
      | false =>
        simp only [Bool.and_eq_true, decide_eq_true_eq] at h
        obtain ⟨rfl, rfl⟩ := h
        exact ⟨j, he⟩
      | true => cases h
    | _ => cases h
  · rintro ⟨j, hj⟩
    exact ⟨_, hj, by simp⟩

/-- The open claims of a record in the order of its frames; `ahead` has left the microtasks
and is being received. -/
structure Inbox (q : Nat) (c : Core) (ahead : List Nat) (waiting : List (Nat × RuntimeTransportFrame)) :
    Prop where
  sorted : waiting.Pairwise (·.1 < ·.1)
  old : ∀ e ∈ waiting, e.1 < c.nextJob
  claims : ∀ j f, (j, f) ∈ waiting ↔ ∃ a, c.jobs j = some (.claiming a q f)
  sole : ∀ j a p f, c.jobs j = some (.claiming a p f) → p = q
  resumed : ∀ j a p f o, .claimed j a p f o ∈ c.microtasks → p = q
  provider : c.config.idempotencyProvider = false → waiting = []
  arrived : ∀ e ∈ waiting, e.2 ∈ arrivals q c
  rising : Rising (c.records q).lastReceivedSequence
    (ahead ++ accepted q c ++ waiting.map (·.2.sequence))
  reached : highest (c.records q).lastReceivedSequence
    (ahead ++ accepted q c ++ waiting.map (·.2.sequence)) =
      highest 0 ((arrivals q c).map (·.sequence))
  remembered : ∀ id, (c.records q).idempotencyCache.has id = true →
    ∃ f ∈ arrivals q c, f.messageId = id
  answered : ∀ j key, .claimAnswered j q key false ∈ c.log → ∃ f ∈ arrivals q c,
    idempotencyKey c.config.identity (c.records q).identity f = key ∧
      f.sequence ≤ highest (c.records q).lastReceivedSequence (ahead ++ accepted q c)
  gaps : c.stats.total .sequenceGapCount = 0
  unborn : c.nextRecord ≤ q → arrivals q c = []

structure Calm (q : Nat) (c c' : Core) : Prop where
  config : c'.config = c.config
  nextRecord : c.nextRecord ≤ c'.nextRecord
  identity : (c'.records q).identity = (c.records q).identity
  last : (c'.records q).lastReceivedSequence = (c.records q).lastReceivedSequence
  cache : (c'.records q).idempotencyCache = (c.records q).idempotencyCache
  nextJob : c.nextJob ≤ c'.nextJob
  jobs : (∀ j a p f, c.jobs j = some (.claiming a p f) → j < c.nextJob) → ∀ j a p f,
    c'.jobs j = some (.claiming a p f) ↔ c.jobs j = some (.claiming a p f)
  queued : queuedOn q c'.microtasks = queuedOn q c.microtasks
  resumed : ∀ j a p f o, .claimed j a p f o ∈ c'.microtasks → .claimed j a p f o ∈ c.microtasks
  arrivals : arrivals q c' = arrivals q c
  answered : ∀ j key, .claimAnswered j q key false ∈ c'.log → .claimAnswered j q key false ∈ c.log
  gaps : c'.stats.total .sequenceGapCount = c.stats.total .sequenceGapCount

namespace Calm

variable {q : Nat} {c c' : Core}

theorem refl (q : Nat) (c : Core) : Calm q c c where
  config := rfl
  nextRecord := le_rfl
  identity := rfl
  last := rfl
  cache := rfl
  nextJob := le_rfl
  jobs _ _ _ _ _ := Iff.rfl
  queued := rfl
  resumed _ _ _ _ _ := id
  arrivals := rfl
  answered _ _ := id
  gaps := rfl

theorem modifyRecord (q : Nat) (c : Core) (p : Nat) {f : Peer → Peer}
    (hidentity : (f (c.records p)).identity = (c.records p).identity)
    (hlast : (f (c.records p)).lastReceivedSequence = (c.records p).lastReceivedSequence)
    (hcache : (f (c.records p)).idempotencyCache = (c.records p).idempotencyCache) :
    Calm q c (c.modifyRecord p f) := by
  obtain rfl | hne := eq_or_ne q p
  · refine { refl q c with identity := ?_, last := ?_, cache := ?_ }
    · rw [Core.modifyRecord_records_self, hidentity]
    · rw [Core.modifyRecord_records_self, hlast]
    · rw [Core.modifyRecord_records_self, hcache]
  · have hrecord := Core.modifyRecord_records_ne c f hne
    exact { refl q c with
      identity := congrArg _ hrecord, last := congrArg _ hrecord, cache := congrArg _ hrecord }

theorem emit (q : Nat) (c : Core) {e : Event} (harrived : ∀ j f, e ≠ .arrived j q f)
    (hanswered : ∀ j key, e ≠ .claimAnswered j q key false) : Calm q c (c.emit e) := by
  refine { refl q c with arrivals := ?_, answered := fun j key h => ?_ }
  · have hnone : arrivedOn q [e] = [] := by
      refine filterMap_eq_nil_iff.mpr fun e' he' => ?_
      rw [mem_singleton.mp he']
      cases e with
      | arrived j p f =>
        change (if p = q then some (j, f) else none) = none
        rw [if_neg]
        rintro rfl
        exact harrived j f rfl
      | _ => rfl
    have happend : arrivedOn q (c.log ++ [e]) = arrivedOn q c.log ++ arrivedOn q [e] :=
      filterMap_append
    change (arrivedOn q (c.log ++ [e])).map Prod.snd = _
    rw [happend, hnone, append_nil]
    rfl
  · exact (mem_append.mp h).resolve_right fun hlast =>
      hanswered j key (mem_singleton.mp hlast).symm

theorem addJob (q : Nat) (c : Core) {job : Job} (hjob : ∀ a p f, job ≠ .claiming a p f) :
    Calm q c (c.addJob job) := by
  refine { refl q c with nextJob := Nat.le_succ _, jobs := fun hold j a p f => ?_ }
  obtain rfl | hne := eq_or_ne j c.nextJob
  · have hself : (c.addJob job).jobs c.nextJob = some job := update_self _ _ _
    rw [hself]
    refine iff_of_false (fun h => hjob a p f (Option.some.inj h)) fun h => ?_
    exact absurd (hold _ a p f h) (Nat.lt_irrefl _)
  · have hother : (c.addJob job).jobs j = c.jobs j := update_of_ne hne _ _
    rw [hother]

theorem dropJob (q : Nat) (c : Core) {j : Nat} (hj : ∀ a p f, c.jobs j ≠ some (.claiming a p f)) :
    Calm q c (c.setJob j none) := by
  refine { refl q c with jobs := fun hold i a p f => ?_ }
  obtain rfl | hne := eq_or_ne i j
  · have hself : (c.setJob i none).jobs i = none := update_self _ _ _
    rw [hself]
    exact iff_of_false (by simp) (hj a p f)
  · have hother : (c.setJob j none).jobs i = c.jobs i := update_of_ne hne _ _
    rw [hother]

theorem of_tick (h : Tick c c') : Calm q c c' := by
  cases h with
  | stats s h => exact { refl q c with gaps := h }
  | link l f | newLink l | dropTimer t | addTimer task h | clock now => exact { refl q c with }
  | record p f h => exact modifyRecord q c p h.identity h.lastReceivedSequence h.idempotencyCache
  | remove a p h =>
    exact { modifyRecord q c p (f := fun r => { r with outboundQueue := [] }) rfl rfl rfl with }
  | forget p => exact modifyRecord q c p rfl rfl rfl
  | addJob job h =>
    refine addJob q c fun a p f hjob => ?_
    subst hjob
    exact h
  | dropJob j h => exact dropJob q c h
  | microtask a p =>
    refine { refl q c with queued := ?_, resumed := fun j b r f o h => ?_ }
    · rw [Core.addMicrotask, queuedOn, filterMap_append]
      exact append_nil _
    · exact (mem_append.mp h).resolve_right (by simp)
  | emit e h =>
    refine emit q c (fun j f he => ?_) fun j key he => ?_
    · subst he
      exact h
    · subst he
      exact h

theorem trans {c'' : Core} (k : Calm q c c') (k' : Calm q c' c'') : Calm q c c'' where
  config := k'.config.trans k.config
  nextRecord := k.nextRecord.trans k'.nextRecord
  identity := k'.identity.trans k.identity
  last := k'.last.trans k.last
  cache := k'.cache.trans k.cache
  nextJob := k.nextJob.trans k'.nextJob
  jobs hold j a p f := by
    refine (k'.jobs (fun j a p f h => ?_) j a p f).trans (k.jobs hold j a p f)
    exact (hold j a p f ((k.jobs hold j a p f).mp h)).trans_le k.nextJob
  queued := k'.queued.trans k.queued
  resumed j a p f o h := k.resumed j a p f o (k'.resumed j a p f o h)
  arrivals := k'.arrivals.trans k.arrivals
  answered j key h := k.answered j key (k'.answered j key h)
  gaps := k'.gaps.trans k.gaps

theorem of_ticks (h : Ticks c c') : Calm q c c' := by
  induction h with
  | refl => exact refl q c
  | tail _ hlast ih => exact ih.trans (of_tick hlast)

theorem setTimer (q : Nat) (c : Core) (t : Nat) (task : Option TimerTask) :
    Calm q c (c.setTimer t task) := { refl q c with }

theorem numbered (q : Nat) (c : Core) (p : Nat) (frame : RuntimeTransportFrame) :
    Calm q c (numbered c p frame) :=
  (modifyRecord q c p rfl rfl rfl).trans (emit q _ (by simp) (by simp))

theorem pushed (q : Nat) (c : Core) (p : Nat) (item : OutboundQueueItem) :
    Calm q c (pushed c p item) := modifyRecord q c p rfl rfl rfl

theorem popped (q : Nat) (c : Core) (a : String) (p : Nat) (item : OutboundQueueItem)
    (rest : List OutboundQueueItem) : Calm q c (popped c a p item rest) := by
  have hrecord : Calm q c (c.modifyRecord p fun r => { r with outboundQueue := rest }) :=
    modifyRecord q c p rfl rfl rfl
  have hjob : Calm q (c.modifyRecord p fun r => { r with outboundQueue := rest })
      ((c.modifyRecord p fun r => { r with outboundQueue := rest }).addJob (.drainSend a p item)) :=
    addJob q _ (by simp)
  exact (hrecord.trans hjob).trans (emit q _ (by simp) (by simp))

theorem armAckRetry (q : Nat) (c : Core) (a : String) (p i : Nat) :
    Calm q c (armAckRetry c a p i) := { refl q c with }

theorem watched (q : Nat) (c : Core) (a : String) (p : Nat) (frame : RuntimeTransportFrame) :
    Calm q c (watched c a p frame) := by
  have hrecord : Calm q c (c.modifyRecord p fun r =>
      { r with pendingAcks := r.pendingAcks.set frame.messageId c.nextPending }) :=
    modifyRecord q c p rfl rfl rfl
  exact { hrecord with }

theorem retried (q : Nat) (c : Core) (a : String) (p i : Nat) : Calm q c (retried c a p i) := by
  have hscheduled : Calm q c (c.emit (.retryScheduled p (c.pendings i).frame.messageId)) :=
    emit q c (by simp) (by simp)
  exact { hscheduled with }

theorem gaveUp (q : Nat) (c : Core) (p i : Nat) : Calm q c (gaveUp c p i) :=
  (modifyRecord q c p rfl rfl rfl).trans (emit q _ (by simp) (by simp))

theorem clearPendingAck (q : Nat) (c : Core) (a : String) (p : Nat) (messageId : String) :
    Calm q c (clearPendingAck c a p messageId) := by
  unfold TransportCore.clearPendingAck
  split
  · exact refl q c
  · rename_i i hget
    have hcleared : Calm q c (c.clearTimer (c.pendings i).timer) := of_ticks
      (ticks_bookkept.of_clearTimer c _)
    have hforgotten : Calm q c ((c.clearTimer (c.pendings i).timer).modifyPending i fun a =>
        { a with timer := none }) := { hcleared with }
    have hdeleted := hforgotten.trans (modifyRecord q _ p
      (f := fun r => { r with pendingAcks := r.pendingAcks.delete messageId }) rfl rfl rfl)
    exact hdeleted.trans (of_ticks (count_ticks _ a (by decide)))

end Calm

namespace Inbox

variable {q : Nat} {c c' : Core} {ahead : List Nat} {waiting : List (Nat × RuntimeTransportFrame)}

theorem create (config : Config) (q : Nat) : Inbox q (create config) [] [] where
  sorted := .nil
  old := by simp
  claims := by simp [TransportCore.create]
  sole := by simp [TransportCore.create]
  resumed := by simp [TransportCore.create]
  provider _ := rfl
  arrived := by simp
  rising := rising_nil
  reached := rfl
  remembered := by simp [TransportCore.create, FrontCache.has]
  answered := by simp [TransportCore.create]
  gaps := rfl
  unborn _ := rfl

theorem job_old (i : Inbox q c ahead waiting) {j : Nat} {a : String} {p : Nat}
    {f : RuntimeTransportFrame} (h : c.jobs j = some (.claiming a p f)) : j < c.nextJob := by
  obtain rfl := i.sole j a p f h
  exact i.old _ ((i.claims j f).mpr ⟨a, h⟩)

theorem calm (i : Inbox q c ahead waiting) (k : Calm q c c') : Inbox q c' ahead waiting := by
  have hjobs := k.jobs fun j a p f h => i.job_old h
  have haccepted : accepted q c' = accepted q c := congrArg (List.map _) k.queued
  refine
    { sorted := i.sorted
      old := fun e he => (i.old e he).trans_le k.nextJob
      claims := fun j f => ?_
      sole := fun j a p f h => i.sole j a p f ((hjobs j a p f).mp h)
      resumed := fun j a p f o h => i.resumed j a p f o (k.resumed j a p f o h)
      provider := fun h => i.provider (k.config ▸ h)
      arrived := by rw [k.arrivals]; exact i.arrived
      rising := by rw [k.last, haccepted]; exact i.rising
      reached := by rw [k.last, haccepted, k.arrivals]; exact i.reached
      remembered := by rw [k.cache, k.arrivals]; exact i.remembered
      answered := fun j key h => ?_
      gaps := k.gaps.trans i.gaps
      unborn := fun h => k.arrivals.trans (i.unborn (k.nextRecord.trans h)) }
  · rw [i.claims]
    exact exists_congr fun a => (hjobs j a q f).symm
  · rw [k.arrivals, k.config, k.identity, k.last, haccepted]
    exact i.answered j key (k.answered j key h)

theorem register (i : Inbox q c ahead waiting) (link : Nat) (identity : RuntimeNodeIdentity) :
    Inbox q (addPeer c link identity) ahead waiting := by
  obtain rfl | hne := eq_or_ne q c.nextRecord
  · have hnone := i.unborn le_rfl
    have hreached := i.reached
    rw [hnone] at hreached
    have hzero : (c.records c.nextRecord).lastReceivedSequence = 0 :=
      Nat.le_zero.mp ((le_highest _ _).trans hreached.le)
    have hlast : ((addPeer c link identity).records c.nextRecord).lastReceivedSequence =
        (c.records c.nextRecord).lastReceivedSequence := by
      rw [hzero]
      simp [addPeer]
    refine
      { sorted := i.sorted
        old := i.old
        claims := i.claims
        sole := i.sole
        resumed := i.resumed
        provider := i.provider
        arrived := i.arrived
        rising := by rw [hlast]; exact i.rising
        reached := by rw [hlast]; exact i.reached
        remembered := fun id h => ?_
        answered := fun j key h => ?_
        gaps := i.gaps
        unborn := fun _ => hnone }
    · simp [addPeer, FrontCache.has] at h
    · obtain ⟨f, hf, -⟩ := i.answered j key h
      rw [hnone] at hf
      cases hf
  · have hrecord : (addPeer c link identity).records q = c.records q :=
      update_of_ne hne _ _
    exact i.calm { Calm.refl q c with
      nextRecord := Nat.le_succ _
      identity := congrArg _ hrecord
      last := congrArg _ hrecord
      cache := congrArg _ hrecord }

theorem rounds (i : Inbox q c ahead waiting) (h : Rounds [] c c') : Inbox q c' ahead waiting := by
  induction h with
  | refl => exact i
  | tail _ hlast ih =>
    cases hlast with
    | tick h => exact ih.calm (.of_tick h)
    | register link identity => exact ih.register link identity
    | arrive a p frame hp hframe => cases hframe
    | ack a p messageId => exact ih.calm (.clearPendingAck q _ a p messageId)
    | pop a p item rest hqueue => exact ih.calm (.popped q _ a p item rest)

structure Begun (q : Nat) (c c' : Core) (frame : RuntimeTransportFrame) : Prop where
  config : c'.config = c.config
  nextRecord : c'.nextRecord = c.nextRecord
  nextJob : c'.nextJob = c.nextJob + 1
  identity : (c'.records q).identity = (c.records q).identity
  last : (c'.records q).lastReceivedSequence = (c.records q).lastReceivedSequence
  gaps : c'.stats.total .sequenceGapCount = c.stats.total .sequenceGapCount
  log : c'.log = c.log ++ [.arrived c.nextJob q frame]

theorem claim_begun (q : Nat) (c : Core) (a : String) (frame : RuntimeTransportFrame) :
    Begun q c (TransportCore.claim c a q frame) frame ∧
      (((c.records q).idempotencyCache.has frame.messageId = true ∧
          (TransportCore.claim c a q frame).jobs = c.jobs ∧
          (TransportCore.claim c a q frame).microtasks =
            c.microtasks ++ [.claimed c.nextJob a q frame (.duplicate .memory [])] ∧
          ((TransportCore.claim c a q frame).records q).idempotencyCache =
            (c.records q).idempotencyCache) ∨
        (c.config.idempotencyProvider = false ∧ (TransportCore.claim c a q frame).jobs = c.jobs ∧
          (∃ evicted, (TransportCore.claim c a q frame).microtasks =
            c.microtasks ++ [.claimed c.nextJob a q frame (.accepted .memory evicted)]) ∧
          ((TransportCore.claim c a q frame).records q).idempotencyCache =
            ((c.records q).idempotencyCache.remember frame.messageId).1) ∨
        (c.config.idempotencyProvider = true ∧
          (TransportCore.claim c a q frame).jobs =
            Function.update c.jobs c.nextJob (some (.claiming a q frame)) ∧
          (TransportCore.claim c a q frame).microtasks = c.microtasks ∧
          ((TransportCore.claim c a q frame).records q).idempotencyCache =
            (c.records q).idempotencyCache)) := by
  unfold TransportCore.claim
  simp only
  split
  case isTrue hhas => exact ⟨⟨rfl, rfl, rfl, rfl, rfl, rfl, rfl⟩, .inl ⟨hhas, rfl, rfl, rfl⟩⟩
  case isFalse =>
    split
    case isTrue hmemory =>
      refine ⟨⟨rfl, rfl, rfl, ?_, ?_, rfl, rfl⟩, .inr (.inl ⟨?_, rfl, ⟨_, rfl⟩, ?_⟩)⟩
      · simp [Core.addMicrotask, Core.emit, Core.modifyRecord]
      · simp [Core.addMicrotask, Core.emit, Core.modifyRecord]
      · simpa [Core.emit] using hmemory
      · simp [Core.addMicrotask, Core.emit, Core.modifyRecord]
    case isFalse hprovider =>
      refine ⟨⟨rfl, rfl, rfl, rfl, rfl, rfl, rfl⟩, .inr (.inr ⟨?_, rfl, rfl, rfl⟩)⟩
      simpa [Core.emit] using hprovider

theorem Begun.arrivals {frame : RuntimeTransportFrame} (b : Begun q c c' frame) :
    arrivals q c' = arrivals q c ++ [frame] := by
  rw [TransportInbox.arrivals, b.log, arrivedOn, filterMap_append, map_append]
  simp [TransportInbox.arrivals, arrivedOn]

theorem Begun.highest {frame : RuntimeTransportFrame} (b : Begun q c c' frame) :
    highest 0 ((TransportInbox.arrivals q c').map (·.sequence)) =
      max (highest 0 ((TransportInbox.arrivals q c).map (·.sequence))) frame.sequence := by
  rw [b.arrivals, map_append]
  exact highest_concat _ _ _

theorem accepted_concat {m : Microtask} (h : c'.microtasks = c.microtasks ++ [m]) :
    accepted q c' = accepted q c ++ (queuedOn q [m]).map (·.2.sequence) := by
  rw [accepted, h, queuedOn, filterMap_append, map_append]
  rfl

section Claims

variable {frame : RuntimeTransportFrame} {a : String}

variable {o : ClaimOutcome} {job : Nat}

theorem resumed_concat (i : Inbox q c ahead waiting)
    (h : c'.microtasks = c.microtasks ++ [.claimed job a q frame o]) :
    ∀ j a p f o, .claimed j a p f o ∈ c'.microtasks → p = q := by
  intro j b p f o hm
  rw [h] at hm
  obtain hm | hm := mem_append.mp hm
  · exact i.resumed j b p f o hm
  · exact (Microtask.claimed.inj (mem_singleton.mp hm)).2.2.1

theorem answered_begun (i : Inbox q c ahead waiting) (b : Begun q c c' frame) {n : Nat}
    (hn : highest (c.records q).lastReceivedSequence (ahead ++ accepted q c) ≤ n) :
    ∀ j key, .claimAnswered j q key false ∈ c'.log → ∃ f ∈ arrivals q c',
      idempotencyKey c'.config.identity (c'.records q).identity f = key ∧ f.sequence ≤ n := by
  intro j key h
  rw [b.log] at h
  obtain ⟨f, hf, hkey, hle⟩ := i.answered j key ((mem_append.mp h).resolve_right (by simp))
  refine ⟨f, ?_, ?_, hle.trans hn⟩
  · rw [b.arrivals]
    exact mem_append_left _ hf
  · rw [b.config, b.identity, hkey]

theorem known (i : Inbox q c [] waiting) (b : Begun q c c' frame) (hborn : q < c.nextRecord)
    (hids : ∀ g ∈ arrivals q c, g.messageId = frame.messageId → g.sequence = frame.sequence)
    (hhas : (c.records q).idempotencyCache.has frame.messageId = true) (hjobs : c'.jobs = c.jobs)
    (hmicrotasks : c'.microtasks =
      c.microtasks ++ [.claimed c.nextJob a q frame (.duplicate .memory [])])
    (hcache : (c'.records q).idempotencyCache = (c.records q).idempotencyCache) :
    Inbox q c' [] waiting := by
  obtain ⟨g, hg, hid⟩ := i.remembered _ hhas
  have hold : frame.sequence ≤ highest 0 ((arrivals q c).map (·.sequence)) :=
    mem_le_highest 0 (hids g hg hid ▸ mem_map_of_mem hg)
  have haccepted : accepted q c' = accepted q c :=
    (accepted_concat hmicrotasks).trans (append_nil _)
  have hgrown : ∀ f ∈ arrivals q c, f ∈ arrivals q c' := fun f hf => by
    rw [b.arrivals]
    exact mem_append_left _ hf
  refine
    { sorted := i.sorted
      old := fun e he => ?_
      claims := by rw [hjobs]; exact i.claims
      sole := by rw [hjobs]; exact i.sole
      resumed := i.resumed_concat hmicrotasks
      provider := fun h => i.provider (b.config ▸ h)
      arrived := fun e he => hgrown _ (i.arrived e he)
      rising := by rw [b.last, haccepted]; exact i.rising
      reached := by rw [b.last, haccepted, b.highest, Nat.max_eq_left hold]; exact i.reached
      remembered := fun id h => ?_
      answered := by
        rw [b.last, haccepted]
        exact i.answered_begun b le_rfl
      gaps := b.gaps.trans i.gaps
      unborn := fun h => absurd (b.nextRecord ▸ h) (Nat.not_le.mpr hborn) }
  · rw [b.nextJob]
    exact Nat.lt_succ_of_lt (i.old e he)
  · rw [hcache] at h
    obtain ⟨f, hf, hid⟩ := i.remembered id h
    exact ⟨f, hgrown f hf, hid⟩

theorem acceptedAtOnce (i : Inbox q c [] []) (b : Begun q c c' frame) (hborn : q < c.nextRecord)
    (hrise : frame.sequence ≤ highest 0 ((arrivals q c).map (·.sequence)) + 1)
    (hjobs : c'.jobs = c.jobs) {evicted : List String} (hmicrotasks : c'.microtasks =
      c.microtasks ++ [.claimed c.nextJob a q frame (.accepted .memory evicted)])
    (hcache : (c'.records q).idempotencyCache =
      ((c.records q).idempotencyCache.remember frame.messageId).1) : Inbox q c' [] [] := by
  have hreached := i.reached
  have hrising := i.rising
  rw [nil_append, map_nil, append_nil] at hreached hrising
  have haccepted : accepted q c' = accepted q c ++ [frame.sequence] := by
    rw [accepted_concat hmicrotasks]
    simp [queuedOn]
  refine
    { sorted := .nil
      old := by simp
      claims := by rw [hjobs]; exact i.claims
      sole := by rw [hjobs]; exact i.sole
      resumed := i.resumed_concat hmicrotasks
      provider := fun _ => rfl
      arrived := by simp
      rising := ?_
      reached := ?_
      remembered := fun id h => ?_
      answered := i.answered_begun b ?_
      gaps := b.gaps.trans i.gaps
      unborn := fun h => absurd (b.nextRecord ▸ h) (Nat.not_le.mpr hborn) }
  · rw [b.last, haccepted, nil_append, map_nil, append_nil, rising_concat, hreached]
    exact ⟨hrising, hrise⟩
  · rw [b.last, haccepted, nil_append, map_nil, append_nil, highest_concat, hreached,
      b.highest]
  · rw [hcache] at h
    obtain h | rfl := FrontCache.has_of_remember h
    · obtain ⟨f, hf, hid⟩ := i.remembered id h
      refine ⟨f, ?_, hid⟩
      rw [b.arrivals]
      exact mem_append_left _ hf
    · refine ⟨frame, ?_, rfl⟩
      rw [b.arrivals]
      exact mem_concat_self
  · rw [b.last, haccepted, nil_append, nil_append, highest_concat]
    exact Nat.le_max_left _ _

theorem asked (i : Inbox q c [] waiting) (b : Begun q c c' frame) (hborn : q < c.nextRecord)
    (hrise : frame.sequence ≤ highest 0 ((arrivals q c).map (·.sequence)) + 1)
    (hprovider : c.config.idempotencyProvider = true)
    (hjobs : c'.jobs = Function.update c.jobs c.nextJob (some (.claiming a q frame)))
    (hmicrotasks : c'.microtasks = c.microtasks)
    (hcache : (c'.records q).idempotencyCache = (c.records q).idempotencyCache) :
    Inbox q c' [] (waiting ++ [(c.nextJob, frame)]) := by
  have hreached := i.reached
  have hrising := i.rising
  have haccepted : accepted q c' = accepted q c := by rw [accepted, accepted, hmicrotasks]
  have hself : c'.jobs c.nextJob = some (.claiming a q frame) := by
    rw [hjobs, update_self]
  have hother : ∀ j, j ≠ c.nextJob → c'.jobs j = c.jobs j := fun j hj => by
    rw [hjobs, update_of_ne hj]
  have hgrown : ∀ f ∈ arrivals q c, f ∈ arrivals q c' := fun f hf => by
    rw [b.arrivals]
    exact mem_append_left _ hf
  have hnumbers : (waiting ++ [(c.nextJob, frame)]).map (·.2.sequence) =
      waiting.map (·.2.sequence) ++ [frame.sequence] := map_append
  refine
    { sorted := ?_
      old := fun e he => ?_
      claims := fun j f => ?_
      sole := fun j b p f h => ?_
      resumed := by rw [hmicrotasks]; exact i.resumed
      provider := fun h => ?_
      arrived := fun e he => ?_
      rising := ?_
      reached := ?_
      remembered := fun id h => ?_
      answered := by
        rw [b.last, haccepted]
        exact i.answered_begun b le_rfl
      gaps := b.gaps.trans i.gaps
      unborn := fun h => absurd (b.nextRecord ▸ h) (Nat.not_le.mpr hborn) }
  · refine pairwise_append.mpr ⟨i.sorted, pairwise_singleton _ _, fun e he e' he' => ?_⟩
    rw [mem_singleton.mp he']
    exact i.old e he
  · rw [b.nextJob]
    obtain he | he := mem_append.mp he
    · exact Nat.lt_succ_of_lt (i.old e he)
    · rw [mem_singleton.mp he]
      exact Nat.lt_succ_self _
  · obtain rfl | hne := eq_or_ne j c.nextJob
    · rw [hself, mem_append, mem_singleton]
      constructor
      · rintro (h | h)
        · exact absurd (i.old _ h) (Nat.lt_irrefl _)
        · exact ⟨a, by rw [(Prod.mk.inj h).2]⟩
      · rintro ⟨b, hb⟩
        obtain ⟨-, -, rfl⟩ := Job.claiming.inj (Option.some.inj hb)
        exact .inr rfl
    · rw [hother j hne, ← i.claims, mem_append, mem_singleton]
      exact or_iff_left fun h => hne (Prod.mk.inj h).1
  · obtain rfl | hne := eq_or_ne j c.nextJob
    · rw [hself] at h
      exact (Job.claiming.inj (Option.some.inj h)).2.1.symm
    · rw [hother j hne] at h
      exact i.sole j b p f h
  · rw [b.config, hprovider] at h
    cases h
  · obtain he | he := mem_append.mp he
    · exact hgrown _ (i.arrived e he)
    · rw [mem_singleton.mp he, b.arrivals]
      exact mem_concat_self
  · rw [b.last, haccepted, hnumbers, ← append_assoc, rising_concat, hreached]
    exact ⟨hrising, hrise⟩
  · rw [b.last, haccepted, hnumbers, ← append_assoc, highest_concat, b.highest, hreached]
  · rw [hcache] at h
    obtain ⟨f, hf, hid⟩ := i.remembered id h
    exact ⟨f, hgrown f hf, hid⟩

theorem claim (i : Inbox q c [] waiting) (a : String) (hborn : q < c.nextRecord)
    (hrise : frame.sequence ≤ highest 0 ((arrivals q c).map (·.sequence)) + 1)
    (hids : ∀ g ∈ arrivals q c, g.messageId = frame.messageId → g.sequence = frame.sequence) :
    ∃ waiting', Inbox q (claim c a q frame) [] waiting' := by
  obtain ⟨b, ⟨hhas, hjobs, hmicrotasks, hcache⟩ | ⟨hprovider, hjobs, ⟨evicted, hmicrotasks⟩, hcache⟩ |
    ⟨hprovider, hjobs, hmicrotasks, hcache⟩⟩ := claim_begun q c a frame
  · exact ⟨waiting, i.known b hborn hids hhas hjobs hmicrotasks hcache⟩
  · obtain rfl := i.provider hprovider
    exact ⟨[], i.acceptedAtOnce b hborn hrise hjobs hmicrotasks hcache⟩
  · exact ⟨_, i.asked b hborn hrise hprovider hjobs hmicrotasks hcache⟩

theorem eq_cons (i : Inbox q c ahead waiting) (hjob : c.jobs job = some (.claiming a q frame))
    (hfirst : ∀ j < job, ∀ a f, c.jobs j ≠ some (.claiming a q f)) :
    ∃ rest, waiting = (job, frame) :: rest := by
  have hmem := (i.claims job frame).mpr ⟨a, hjob⟩
  cases waiting with
  | nil => cases hmem
  | cons e rest =>
    obtain ⟨j, f⟩ := e
    obtain ⟨b, hb⟩ := (i.claims j f).mp mem_cons_self
    obtain heq | hlater := mem_cons.mp hmem
    · exact ⟨rest, by rw [heq]⟩
    · have hlt := (pairwise_cons.mp i.sorted).1 _ hlater
      exact absurd hb (hfirst j hlt b f)

structure Answered (q : Nat) (c c' : Core) (job : Nat) (frame : RuntimeTransportFrame) : Prop where
  config : c'.config = c.config
  nextRecord : c'.nextRecord = c.nextRecord
  nextJob : c'.nextJob = c.nextJob
  identity : (c'.records q).identity = (c.records q).identity
  last : (c'.records q).lastReceivedSequence = (c.records q).lastReceivedSequence
  cache : (c'.records q).idempotencyCache =
    ((c.records q).idempotencyCache.remember frame.messageId).1
  gaps : c'.stats.total .sequenceGapCount = c.stats.total .sequenceGapCount
  jobs : c'.jobs = Function.update c.jobs job none
  arrivals : arrivals q c' = arrivals q c

theorem answer_of (i : Inbox q c [] waiting) (k : Answered q c c' job frame)
    {rest : List (Nat × RuntimeTransportFrame)} (hwaiting : waiting = (job, frame) :: rest)
    (hmicrotasks : c'.microtasks = c.microtasks ++ [.claimed job a q frame o])
    (hnumbers : accepted q c' = accepted q c ++ [frame.sequence] ∨
      accepted q c' = accepted q c ∧
        frame.sequence ≤ highest (c.records q).lastReceivedSequence (accepted q c))
    (hanswered : ∀ j key, .claimAnswered j q key false ∈ c'.log →
      .claimAnswered j q key false ∈ c.log ∨
        key = idempotencyKey c.config.identity (c.records q).identity frame) :
    Inbox q c' [] rest := by
  subst hwaiting
  have hlater := pairwise_cons.mp i.sorted
  have harrived : frame ∈ arrivals q c := i.arrived _ mem_cons_self
  have hreached := i.reached
  have hrising := i.rising
  rw [nil_append, map_cons] at hreached hrising
  have hbefore : highest (c.records q).lastReceivedSequence (accepted q c) ≤
      highest (c.records q).lastReceivedSequence (accepted q c') := by
    obtain hnew | ⟨hsame, -⟩ := hnumbers
    · rw [hnew, highest_concat]
      exact Nat.le_max_left _ _
    · rw [hsame]
  have hframe : frame.sequence ≤ highest (c.records q).lastReceivedSequence (accepted q c') := by
    obtain hnew | ⟨hsame, hold⟩ := hnumbers
    · rw [hnew, highest_concat]
      exact Nat.le_max_right _ _
    · rw [hsame]
      exact hold
  refine
    { sorted := hlater.2
      old := fun e he => k.nextJob ▸ i.old e (mem_cons_of_mem _ he)
      claims := fun j f => ?_
      sole := fun j b p f h => ?_
      resumed := i.resumed_concat hmicrotasks
      provider := fun h => ?_
      arrived := fun e he => by rw [k.arrivals]; exact i.arrived e (mem_cons_of_mem _ he)
      rising := ?_
      reached := ?_
      remembered := fun id h => ?_
      answered := fun j key h => ?_
      gaps := k.gaps.trans i.gaps
      unborn := fun h => k.arrivals.trans (i.unborn (k.nextRecord ▸ h)) }
  · rw [k.jobs]
    obtain rfl | hne := eq_or_ne j job
    · rw [update_self]
      refine iff_of_false (fun h => ?_) (by simp)
      have hlt := hlater.1 _ h
      exact Nat.lt_irrefl _ hlt
    · rw [update_of_ne hne, ← i.claims, mem_cons]
      exact (or_iff_right fun h => hne (Prod.mk.inj h).1).symm
  · rw [k.jobs] at h
    obtain rfl | hne := eq_or_ne j job
    · rw [update_self] at h
      cases h
    · rw [update_of_ne hne] at h
      exact i.sole j b p f h
  · cases i.provider (k.config ▸ h)
  · rw [k.last, nil_append]
    obtain hnew | ⟨hsame, hold⟩ := hnumbers
    · rw [hnew, append_assoc]
      exact hrising
    · rw [hsame]
      exact hrising.skip hold
  · rw [k.last, nil_append, k.arrivals, ← hreached]
    obtain hnew | ⟨hsame, hold⟩ := hnumbers
    · rw [hnew, append_assoc]
      rfl
    · rw [hsame]
      exact (highest_skip hold).symm
  · rw [k.arrivals]
    rw [k.cache] at h
    obtain h | rfl := FrontCache.has_of_remember h
    · exact i.remembered id h
    · exact ⟨frame, harrived, rfl⟩
  · rw [k.arrivals, k.config, k.identity, k.last, nil_append]
    obtain h | rfl := hanswered j key h
    · obtain ⟨f, hf, hkey, hle⟩ := i.answered j key h
      exact ⟨f, hf, hkey, hle.trans hbefore⟩
    · exact ⟨frame, harrived, rfl, hframe⟩

theorem idempotencyKey_inj {localNode peerNode : RuntimeNodeIdentity} {f g : RuntimeTransportFrame}
    (h : idempotencyKey localNode peerNode f = idempotencyKey localNode peerNode g) :
    f.messageId = g.messageId := (String.append_right_inj _).mp h

theorem answer (i : Inbox q c [] waiting) {p : Nat} {answer : ClaimAnswer}
    (hjob : c.jobs job = some (.claiming a p frame))
    (hfirst : ∀ j < job, ∀ a f, c.jobs j ≠ some (.claiming a q f)) (herror : answer ≠ .error)
    (hduplicate : answer = .duplicate → ∃ j, .claimAnswered j q
      (idempotencyKey c.config.identity (c.records q).identity frame) false ∈ c.log)
    (hids : ∀ f ∈ arrivals q c, ∀ g ∈ arrivals q c, f.messageId = g.messageId →
      f.sequence = g.sequence) :
    ∃ waiting', Inbox q (claimAnswered (c.setJob job none) job a p frame answer) [] waiting' := by
  obtain rfl := i.sole job a p frame hjob
  obtain ⟨rest, hwaiting⟩ := i.eq_cons hjob hfirst
  have harrived : frame ∈ arrivals p c :=
    i.arrived (job, frame) (hwaiting ▸ mem_cons_self)
  refine ⟨rest, ?_⟩
  cases answer with
  | error => exact absurd rfl herror
  | claimed =>
    have k : Answered p c (claimAnswered (c.setJob job none) job a p frame .claimed) job frame := by
      refine ⟨rfl, rfl, rfl, ?_, ?_, ?_, rfl, rfl, ?_⟩
      · simp [claimAnswered, Core.addMicrotask, Core.emit, Core.modifyRecord, Core.setJob]
      · simp [claimAnswered, Core.addMicrotask, Core.emit, Core.modifyRecord, Core.setJob]
      · simp [claimAnswered, Core.addMicrotask, Core.emit, Core.modifyRecord, Core.setJob]
      · simp [arrivals, claimAnswered, Core.addMicrotask, Core.emit, Core.modifyRecord, Core.setJob,
          arrivedOn]
    have hmicrotasks : (claimAnswered (c.setJob job none) job a p frame .claimed).microtasks =
        c.microtasks ++ [.claimed job a p frame (.accepted .provider
          ((c.records p).idempotencyCache.remember frame.messageId).2)] := rfl
    refine i.answer_of k hwaiting hmicrotasks (.inl ?_) fun j key h => ?_
    · rw [accepted_concat hmicrotasks]
      simp [queuedOn]
    · obtain h | h := mem_append.mp h
      · exact .inl h
      · exact .inr (Event.claimAnswered.inj (mem_singleton.mp h)).2.2.1
  | duplicate =>
    obtain ⟨j, hj⟩ := hduplicate rfl
    obtain ⟨f, hf, hkey, hle⟩ := i.answered j _ hj
    rw [nil_append, hids f hf frame harrived (idempotencyKey_inj hkey)] at hle
    have k : Answered p c (claimAnswered (c.setJob job none) job a p frame .duplicate) job frame := by
      refine ⟨rfl, rfl, rfl, ?_, ?_, ?_, rfl, rfl, ?_⟩
      · simp [claimAnswered, Core.addMicrotask, Core.emit, Core.modifyRecord, Core.setJob]
      · simp [claimAnswered, Core.addMicrotask, Core.emit, Core.modifyRecord, Core.setJob]
      · simp [claimAnswered, Core.addMicrotask, Core.emit, Core.modifyRecord, Core.setJob]
      · simp [arrivals, claimAnswered, Core.addMicrotask, Core.emit, Core.modifyRecord, Core.setJob,
          arrivedOn]
    have hmicrotasks : (claimAnswered (c.setJob job none) job a p frame .duplicate).microtasks =
        c.microtasks ++ [.claimed job a p frame (.duplicate .provider
          ((c.records p).idempotencyCache.remember frame.messageId).2)] := rfl
    refine i.answer_of k hwaiting hmicrotasks (.inr ⟨?_, hle⟩) fun j key h => ?_
    · rw [accepted_concat hmicrotasks]
      simp [queuedOn]
    · obtain h | h := mem_append.mp h
      · exact .inl h
      · exact absurd (Event.claimAnswered.inj (mem_singleton.mp h)).2.2.2 (by simp)

theorem receive (i : Inbox q c [frame.sequence] waiting) (a : String) :
    Inbox q (recordFrameReceived c a q frame) [] waiting := by
  have hrising := i.rising
  rw [append_assoc, singleton_append, rising_cons] at hrising
  have hnext : ¬ (c.records q).lastReceivedSequence + 1 < frame.sequence :=
    Nat.not_lt.mpr hrising.1
  set d := c.modifyRecord q fun r =>
    { r with lastReceivedSequence := max r.lastReceivedSequence frame.sequence }
  have hrecord : d.records q = { c.records q with
      lastReceivedSequence := max (c.records q).lastReceivedSequence frame.sequence } :=
    update_self _ _ _
  have hreceived : Inbox q d [] waiting := by
    refine
      { sorted := i.sorted
        old := i.old
        claims := i.claims
        sole := i.sole
        resumed := i.resumed
        provider := i.provider
        arrived := i.arrived
        rising := ?_
        reached := ?_
        remembered := fun id h => ?_
        answered := fun j key h => ?_
        gaps := i.gaps
        unborn := i.unborn }
    · rw [hrecord, nil_append]
      exact hrising.2
    · rw [hrecord, nil_append]
      exact i.reached
    · rw [hrecord] at h
      exact i.remembered id h
    · rw [hrecord, nil_append]
      exact i.answered j key h
  rw [recordFrameReceived, if_neg hnext]
  exact hreceived.calm (.of_ticks (count_ticks d a (by decide)))

theorem resume (i : Inbox q c [] waiting) {p : Nat} {rest : List Microtask}
    (hm : c.microtasks = .claimed job a p frame o :: rest) :
    Inbox q (claimResumed { c with microtasks := rest } job a p frame o) [] waiting := by
  obtain rfl := i.resumed job a p frame o (hm ▸ mem_cons_self)
  have hresumed : ∀ j b r f o', .claimed j b r f o' ∈ rest → .claimed j b r f o' ∈ c.microtasks :=
    fun j b r f o' h => hm ▸ mem_cons_of_mem _ h
  obtain ⟨hother, hticks⟩ | ⟨⟨source, evicted, rfl⟩, c₁, hbefore, hafter⟩ :=
    claimResumed_ticks { c with microtasks := rest } job a p frame o
  · have hqueued : queuedOn p rest = queuedOn p c.microtasks := by
      rw [hm]
      cases o with
      | accepted source evicted => exact absurd rfl (hother source evicted)
      | duplicate | error => rfl
    have hpopped : Calm p c { c with microtasks := rest } :=
      { Calm.refl p c with queued := hqueued, resumed := hresumed }
    exact i.calm (hpopped.trans (.of_ticks hticks))
  · have hqueued : queuedOn p c.microtasks = (job, frame) :: queuedOn p rest := by
      rw [hm]
      simp [queuedOn]
    have haccepted : accepted p c = frame.sequence :: accepted p { c with microtasks := rest } :=
      congrArg (List.map _) hqueued
    have hpopped : Inbox p { c with microtasks := rest } [frame.sequence] waiting := by
      have hrising := i.rising
      have hreached := i.reached
      have hanswered := i.answered
      rw [haccepted] at hrising hreached hanswered
      exact { i with
        resumed := fun j b r f o h => i.resumed j b r f o (hresumed j b r f o h)
        rising := hrising
        reached := hreached
        answered := hanswered }
    exact ((hpopped.calm (.of_ticks hbefore)).receive a).calm (.of_ticks hafter)

theorem microtask (i : Inbox q c [] waiting) (h : step c .microtask = some c') :
    Inbox q c' [] waiting := by
  simp only [TransportCore.step] at h
  split at h
  case h_1 m rest hm =>
    cases h
    cases m with
    | claimed job a p frame o => exact i.resume hm
    | retryRejected a p =>
      have hpopped : Calm q c { c with microtasks := rest } := by
        refine { Calm.refl q c with queued := ?_, resumed := fun j b r f o h => ?_ }
        · rw [hm]
          rfl
        · exact hm ▸ mem_cons_of_mem _ h
      exact i.calm (hpopped.trans (.of_ticks (ticks_closes.of_disconnect _ a)))
  case h_2 => cases h

theorem timer (i : Inbox q c [] waiting) {t : Nat} (h : TransportCore.step c (.timer t) = some c') :
    Inbox q c' [] waiting := by
  have hcleared := Calm.setTimer q c t none
  obtain hrounds | ⟨a, p, n, -, -, hrounds | hrounds | ⟨-, hrounds | hrounds⟩⟩ := timer_turn [] h
  · exact i.rounds hrounds
  · exact (i.calm (hcleared.trans (.gaveUp q _ p n))).rounds hrounds
  · exact (i.calm (hcleared.trans (.armAckRetry q _ a p n))).rounds hrounds
  · exact (i.calm (hcleared.trans (.retried q _ a p n))).rounds hrounds
  · exact (i.calm ((hcleared.trans (.retried q _ a p n)).trans (.pushed q _ p _))).rounds hrounds

theorem step (i : Inbox q c [] waiting) {a : Action} (ha : arriving a = [])
    (hanswers : answersInOrder q c a = true)
    (hids : ∀ f ∈ arrivals q c, ∀ g ∈ arrivals q c, f.messageId = g.messageId →
      f.sequence = g.sequence) (h : step c a = some c') : ∃ waiting', Inbox q c' [] waiting' := by
  cases a with
  | send destination message =>
    refine ⟨waiting, ?_⟩
    obtain ⟨-, hrounds⟩ | ⟨p, frame, -, ⟨-, hrounds⟩ | ⟨-, hrounds⟩⟩ := send_turn [] h
    · exact i.rounds hrounds
    · exact (i.calm (.numbered q c p frame)).rounds hrounds
    · exact (i.calm ((Calm.numbered q c p frame).trans (.pushed q _ p _))).rounds hrounds
  | sendSettled job ok =>
    refine ⟨waiting, ?_⟩
    obtain hrounds | ⟨a, p, item, hjob, -, hrounds⟩ := sendSettled_turn [] h
    · exact i.rounds hrounds
    · have hsettled := Calm.dropJob q c (j := job) (by simp [hjob])
      exact (i.calm (hsettled.trans (.watched q _ a p item.frame))).rounds hrounds
  | providerAnswers job answer =>
    obtain ⟨a, p, frame, hjob, rfl⟩ := providerAnswers_cases h
    simp only [answersInOrder, hjob, Bool.and_eq_true, all_eq_true, mem_range] at hanswers
    obtain ⟨hfirst, hanswer⟩ := hanswers
    refine i.answer hjob (fun j hj b f hclaim => ?_) ?_ (fun heq => ?_) hids
    · have hfree := hfirst j hj
      simp [isClaimOf, hclaim] at hfree
    · rintro rfl
      cases hanswer
    · subst heq
      exact claimedOn_iff.mp hanswer
  | microtask => exact ⟨waiting, i.microtask h⟩
  | timer t => exact ⟨waiting, i.timer h⟩
  | connect | dialSettled | authSettled | acceptInbound | rejectInbound | disconnect | flushPeer
  | linkFact | linkAlive | linkOpens | clock | stop =>
    have hrounds := step_rounds (by trivial) h
    rw [ha] at hrounds
    exact ⟨waiting, i.rounds hrounds⟩

theorem deliver (i : Inbox q c [] waiting) (r : Registry c) (hq : c.peers.get a = some q)
    (hrise : frame.sequence ≤ highest 0 ((arrivals q c).map (·.sequence)) + 1)
    (hids : ∀ g ∈ arrivals q c, g.messageId = frame.messageId → g.sequence = frame.sequence)
    (h : c' = handleInboundPayload c a (c.records q).link (.frame frame)) :
    (∃ waiting', Inbox q c' [] waiting') ∧ (arrivals q c' = arrivals q c ++ [frame] ∨
      arrivals q c' = arrivals q c ∧ q < c'.nextRecord ∧ ∀ b, c'.peers.get b ≠ some q) := by
  subst h
  simp only [handleInboundPayload, hq, ne_eq, not_true_eq_false, if_false]
  split
  case isTrue =>
    have hcalm : Calm q c (dropAndDisconnect c a .malformedFrame) :=
      .of_ticks (ticks_closes.of_dropAndDisconnect c a _)
    have hborn := (r.old a q hq).trans_le hcalm.nextRecord
    refine ⟨⟨waiting, i.calm hcalm⟩, .inr ⟨hcalm.arrivals, hborn, fun b hb => ?_⟩⟩
    have hkept := (quiet_closes.of_dropAndDisconnect c a .malformedFrame).toKept
    have heq : b = a := (r.address b q (hkept.peers b q hb)).symm.trans (r.address a q hq)
    rw [heq, dropAndDisconnect, disconnect_get, if_pos rfl] at hb
    cases hb
  case isFalse =>
    have hseen : Calm q c (markPeerSeen c a (c.records q).link) :=
      .of_ticks (ticks_bookkept.of_markPeerSeen c a _)
    have hborn : q < (markPeerSeen c a (c.records q).link).nextRecord :=
      (r.old a q hq).trans_le hseen.nextRecord
    refine ⟨(i.calm hseen).claim a hborn ?_ ?_, .inl ?_⟩
    · rw [hseen.arrivals]
      exact hrise
    · rw [hseen.arrivals]
      exact hids
    · rw [(claim_begun q _ a frame).1.arrivals, hseen.arrivals]

end Claims

end Inbox

end ActorWeb.TransportInbox
