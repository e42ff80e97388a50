import ActorWeb.TransportBookkeeping
import ActorWeb.Trace

namespace ActorWeb.TransportQuiet

open List TransportContract TransportCore TransportBookkeeping Trace

def Plain : Event → Prop
  | .connected _ _ | .disconnected _ _ | .closed _ _ | .linkSend _ _ => True
  | _ => False

/-- Peers and their pending acks only go away, and no record changes hands. -/
structure Kept (c c' : Core) : Prop where
  config : c'.config = c.config
  nextRecord : c'.nextRecord = c.nextRecord
  identity : ∀ p, (c'.records p).identity = (c.records p).identity
  pendingAcks : ∀ p id, (c.records p).pendingAcks.get id = none → (c'.records p).pendingAcks.get id = none
  peers : ∀ a p, c'.peers.get a = some p → c.peers.get a = some p

/-- What the bookkeeping of a core may change: neither a send, a claim nor a retry takes place. -/
structure Quiet (c c' : Core) : Prop extends Kept c c' where
  sequence : ∀ p, (c'.records p).sequence = (c.records p).sequence
  cache : ∀ p, (c'.records p).idempotencyCache = (c.records p).idempotencyCache
  nextJob : c.nextJob ≤ c'.nextJob
  jobs : ∀ j a p f, c'.jobs j = some (.claiming a p f) → c.jobs j = some (.claiming a p f)
  microtasks : ∃ ms, c'.microtasks = c.microtasks ++ ms ∧ ∀ m ∈ ms, ∃ a p, m = .retryRejected a p
  log : ∃ new, c'.log = c.log ++ new ∧ (∀ e ∈ new, Plain e) ∧
    ∀ a p, .closed a p ∈ new → c.peers.get a = some p ∧ c'.peers.get a ≠ some p

namespace Kept

variable {c c' c'' : Core}

theorem refl (c : Core) : Kept c c := ⟨rfl, rfl, fun _ => rfl, fun _ _ => id, fun _ _ => id⟩

theorem trans (k : Kept c c') (k' : Kept c' c'') : Kept c c'' where
  config := k'.config.trans k.config
  nextRecord := k'.nextRecord.trans k.nextRecord
  identity p := (k'.identity p).trans (k.identity p)
  pendingAcks p id h := k'.pendingAcks p id (k.pendingAcks p id h)
  peers a p h := k.peers a p (k'.peers a p h)

end Kept

namespace Quiet

variable {c c' c'' : Core}

theorem refl (c : Core) : Quiet c c where
  toKept := .refl c
  sequence _ := rfl
  cache _ := rfl
  nextJob := Nat.le_refl _
  jobs _ _ _ _ := id
  microtasks := ⟨[], by simp⟩
  log := ⟨[], by simp⟩

theorem trans (q : Quiet c c') (q' : Quiet c' c'') : Quiet c c'' where
  toKept := q.toKept.trans q'.toKept
  sequence p := (q'.sequence p).trans (q.sequence p)
  cache p := (q'.cache p).trans (q.cache p)
  nextJob := Nat.le_trans q.nextJob q'.nextJob
  jobs j a p f h := q.jobs j a p f (q'.jobs j a p f h)
  microtasks := by
    obtain ⟨ms, hms, hretry⟩ := q.microtasks
    obtain ⟨ms', hms', hretry'⟩ := q'.microtasks
    refine ⟨ms ++ ms', by rw [hms', hms, append_assoc], ?_⟩
    exact fun m hm => (mem_append.mp hm).elim (hretry m) (hretry' m)
  log := by
    obtain ⟨new, hnew, hplain, hclosed⟩ := q.log
    obtain ⟨new', hnew', hplain', hclosed'⟩ := q'.log
    refine ⟨new ++ new', by rw [hnew', hnew, append_assoc], ?_, ?_⟩
    · exact fun e he => (mem_append.mp he).elim (hplain e) (hplain' e)
    · intro a p h
      rcases mem_append.mp h with h | h
      · exact ⟨(hclosed a p h).1, fun h' => (hclosed a p h).2 (q'.peers a p h')⟩
      · exact ⟨q.peers a p (hclosed' a p h).1, (hclosed' a p h).2⟩

theorem mem_log (q : Quiet c c') {e : Event} (he : ¬ Plain e) : e ∈ c'.log ↔ e ∈ c.log := by
  obtain ⟨new, hnew, hplain, -⟩ := q.log
  rw [hnew, mem_append, or_iff_left fun h => he (hplain e h)]

theorem disciplined (q : Quiet c c') {allowed : List Event → Event → Prop}
    (hplain : ∀ pre e, Plain e → allowed pre e) : Disciplined allowed c'.log ↔ Disciplined allowed c.log := by
  obtain ⟨new, hnew, hnewPlain, -⟩ := q.log
  rw [hnew]
  exact disciplined_append fun _ e he _ => hplain _ e (hnewPlain e he)

end Quiet

variable (c : Core)

variable (p : Nat)

theorem modifyRecord_quiet {f : Peer → Peer}
    (hf : (f (c.records p)).identity = (c.records p).identity ∧
      (f (c.records p)).sequence = (c.records p).sequence ∧
      (f (c.records p)).idempotencyCache = (c.records p).idempotencyCache)
    (hacks : ∀ id, (c.records p).pendingAcks.get id = none → (f
      (c.records p)).pendingAcks.get id = none) : Quiet c (c.modifyRecord p f) := by
  refine { Quiet.refl c with identity := ?_, sequence := ?_, cache := ?_, pendingAcks := ?_ }
  all_goals intro q
  all_goals
    by_cases hq : q = p
    · subst hq
      rw [Core.modifyRecord_records_self]
      first
        | exact hf.1
        | exact hf.2.1
        | exact hf.2.2
        | exact hacks
    · rw [Core.modifyRecord_records_ne c f hq]
      try exact fun _ => id

theorem modifyLink_quiet (l : Nat) (f : PeerLink → PeerLink) : Quiet c (c.modifyLink l f) :=
  { Quiet.refl c with }

theorem modifyPending_quiet (i : Nat) (f : PendingAck → PendingAck) : Quiet c (c.modifyPending i f) :=
  { Quiet.refl c with }

theorem setTimer_quiet (t : Nat) (task : Option TimerTask) : Quiet c (c.setTimer t task) :=
  { Quiet.refl c with }

theorem addTimer_quiet (task : TimerTask) : Quiet c (c.addTimer task) := { Quiet.refl c with }

theorem addJob_quiet {job : Job} (hjob : ∀ a p f, job ≠ .claiming a p f) : Quiet c (c.addJob job) := by
  refine { Quiet.refl c with nextJob := Nat.le_succ _, jobs := fun j a p f h => ?_ }
  by_cases hj : j = c.nextJob
  · subst hj
    simp only [Core.addJob, Core.setJob, Function.update_self, Option.some.injEq] at h
    exact absurd h (hjob a p f)
  · simpa only [Core.addJob, Core.setJob, Function.update_of_ne hj] using h

theorem dropJob_quiet (j : Nat) : Quiet c (c.setJob j none) := by
  refine { Quiet.refl c with jobs := fun j' a p f h => ?_ }
  by_cases hj : j' = j
  · subst hj
    simp [Core.setJob] at h
  · simpa only [Core.setJob, Function.update_of_ne hj] using h

variable (a : String)

theorem addRetryRejected_quiet (p : Nat) : Quiet c (c.addMicrotask (.retryRejected a p)) :=
  { Quiet.refl c with microtasks := ⟨[.retryRejected a p], rfl, by simp⟩ }

theorem emit_quiet {e : Event} (he : Plain e) (hclosed : ∀ a p, e ≠ .closed a p) : Quiet c (c.emit e) :=
  { Quiet.refl c with
    log := ⟨[e], rfl, by simpa using he, fun a p h => absurd (mem_singleton.mp h).symm
      (hclosed a p)⟩ }

theorem setStats_quiet (s : Stats) : Quiet c { c with stats := s } := { Quiet.refl c with }

theorem touchPeerStats_quiet : Quiet c (touchPeerStats c a) := setStats_quiet c _

theorem count_quiet (k : Counter) : Quiet c (count c a k) := setStats_quiet c _

theorem countTotal_quiet (k : Counter) : Quiet c (countTotal c k) := setStats_quiet c _

theorem setPeerCount_quiet (k : Counter) (n : Nat) : Quiet c (setPeerCount c a k n) :=
  setStats_quiet c _

theorem quiet_bookkept : Bookkept Quiet where
  refl := .refl
  trans := .trans
  link := modifyLink_quiet
  record c p f h := modifyRecord_quiet c p ⟨h.identity, h.sequence, h.idempotencyCache⟩ fun id hid => by
    rwa [h.pendingAcks]
  dropTimer c t := setTimer_quiet c t none
  addTimer c task _ := addTimer_quiet c task
  addJob c job h := addJob_quiet c fun a p f hjob => by
    subst hjob
    exact h
  microtask := addRetryRejected_quiet
  touched := touchPeerStats_quiet
  counted c a k _ _ := count_quiet c a k

theorem updateOutboundQueueDepth_quiet : Quiet c (updateOutboundQueueDepth c a) :=
  (touchPeerStats_quiet c a).trans (setStats_quiet _ _)

theorem recordPeerConnected_quiet : Quiet c (recordPeerConnected c a) := by
  unfold recordPeerConnected
  refine Quiet.trans ?_ (setPeerCount_quiet _ _ _ _)
  split
  · exact (count_quiet c a _).trans (countTotal_quiet _ _)
  · exact count_quiet c a _

theorem recordFrameReceived_quiet (p : Nat) (frame : RuntimeTransportFrame) :
    Quiet c (recordFrameReceived c a p frame) := by
  unfold recordFrameReceived
  refine Quiet.trans (Quiet.trans ?_ (modifyRecord_quiet _ p ⟨rfl, rfl, rfl⟩ fun _ => id))
    (count_quiet _ a _)
  split
  · exact count_quiet c a _
  · exact .refl c

theorem clearPendingAcks_quiet : Quiet c (clearPendingAcks c p) :=
  (quiet_bookkept.of_foldl (fun c i => quiet_bookkept.of_clearTimer c (c.pendings i).timer) _ c).trans
    (modifyRecord_quiet _ p ⟨rfl, rfl, rfl⟩ fun _ _ => rfl)

theorem rejectQueuedFrames_quiet : Quiet c (rejectQueuedFrames c p) :=
  (modifyRecord_quiet c p ⟨rfl, rfl, rfl⟩ fun _ => id).trans (quiet_bookkept.of_foldl
    (fun c => quiet_bookkept.of_rejectItem c p) _ _)

theorem unlisten_quiet : Quiet c (unlisten c p) := modifyLink_quiet c _ _

theorem removePeer_quiet (p : Nat) (hp : c.peers.get a = some p) :
    Quiet c ({ c with peers := c.peers.delete a }.emit (.closed a p)) := by
  have hdelete (b q) (h : (c.peers.delete a).get b = some q) : b ≠ a ∧ c.peers.get b = some q := by
    simpa [OrderedMap.get_delete] using h
  refine { Quiet.refl c with
    peers := fun b q h => (hdelete b q h).2
    log := ⟨[.closed a p], rfl, by simp [Plain], fun b q h => ?_⟩ }
  obtain ⟨rfl, rfl⟩ : b = a ∧ q = p := by simpa using h
  exact ⟨hp, fun h' => (hdelete b q h').1 rfl⟩

theorem foldl_peers {α : Type} {f : Core → α → Core} (hf : ∀ c a, (f c a).peers = c.peers) (as : List α)
    (c : Core) : (as.foldl f c).peers = c.peers := by
  induction as generalizing c with
  | nil => rfl
  | cons a as ih => exact (ih _).trans (hf c a)

theorem clearTimer_peers (t : Option Nat) : (c.clearTimer t).peers = c.peers := by
  cases t <;> rfl

def closing : Core := unlisten (rejectQueuedFrames (clearPendingAcks
    (clearHeartbeat c p) p) p) p

theorem closing_quiet : Quiet c (closing c p) :=
  (((quiet_bookkept.of_clearHeartbeat c p).trans (clearPendingAcks_quiet _ p)).trans
    (rejectQueuedFrames_quiet _ p)).trans
    (unlisten_quiet _ p)

theorem closing_peers : (closing c p).peers = c.peers := by
  have hreject : (rejectQueuedFrames (clearPendingAcks (clearHeartbeat c p) p) p).peers =
      (clearPendingAcks (clearHeartbeat c p) p).peers :=
    foldl_peers (fun c item => by unfold rejectItem; split <;> rfl) _ _
  have hacks : (clearPendingAcks (clearHeartbeat c p) p).peers = (clearHeartbeat c p).peers :=
    foldl_peers (fun c i => clearTimer_peers c _) _ _
  have hheartbeat : (clearHeartbeat c p).peers = c.peers :=
    (clearTimer_peers _ _).trans (clearTimer_peers _ _)
  exact hreject.trans (hacks.trans hheartbeat)

theorem closePeer_quiet {a : String} {p : Nat} (hp : c.peers.get a = some p) (emitDisconnected : Bool) :
    Quiet c (closePeer c a p emitDisconnected) := by
  have hremoved : Quiet c ({ closing c p with peers := (closing c p).peers.delete a }.emit
    (.closed a p)) :=
    (closing_quiet c p).trans (removePeer_quiet _ a p (by rw [closing_peers, hp]))
  have hlink := hremoved.trans (modifyLink_quiet _ ((closing c p).records p).link fun l =>
    { l with isOpen := false })
  have hrecord := hlink.trans (modifyRecord_quiet _ p (f := fun r => { r with connected := false })
    ⟨rfl, rfl, rfl⟩ fun _ => id)
  have hclosed : Quiet c (closePeer c a p false) := hrecord.trans (count_quiet _ a .disconnectCount)
  cases emitDisconnected with
  | false => exact hclosed
  | true => exact hclosed.trans (emit_quiet _ (e := .disconnected a p) trivial (by simp))

theorem quiet_closes : Closing Quiet := ⟨quiet_bookkept, fun c _ _ hp => closePeer_quiet c hp⟩

theorem drainOutboundQueue_quiet (p : Nat) : Quiet c (drainOutboundQueue c a p) := by
  unfold drainOutboundQueue
  split
  · exact quiet_bookkept.of_leaveDrain c p
  · split
    · exact (((modifyRecord_quiet c p ⟨rfl, rfl, rfl⟩ fun _ => id).trans
      (updateOutboundQueueDepth_quiet _ a)).trans
        (addJob_quiet _ (by simp))).trans (emit_quiet _ (e := .linkSend p _) trivial (by simp))
    · exact quiet_bookkept.of_leaveDrain c p

theorem flushOutboundQueue_quiet (p : Nat) : Quiet c (flushOutboundQueue c a p) := by
  unfold flushOutboundQueue
  split
  · exact .refl c
  · exact (modifyRecord_quiet c p ⟨rfl, rfl, rfl⟩ fun _ => id).trans (drainOutboundQueue_quiet _ a p)

theorem enqueueFrame_quiet (p : Nat) (item : OutboundQueueItem) :
    Quiet c (enqueueFrame c a p item) := by
  unfold enqueueFrame
  split
  · exact ((count_quiet c a _).trans (count_quiet _ a _)).trans (quiet_bookkept.of_rejectItem _ p item)
  · exact ((modifyRecord_quiet c p ⟨rfl, rfl, rfl⟩ fun _ => id).trans
    (updateOutboundQueueDepth_quiet _ a)).trans
      (flushOutboundQueue_quiet _ a p)

theorem flushPeer_quiet : Quiet c (flushPeer c a) := by
  unfold flushPeer
  split
  · exact .refl c
  · exact flushOutboundQueue_quiet c a _

theorem armAckRetry_quiet (p i : Nat) : Quiet c (armAckRetry c a p i) :=
  (modifyPending_quiet c i _).trans (addTimer_quiet _ _)

theorem clearPendingAck_quiet (p : Nat) (messageId : String) :
    Quiet c (clearPendingAck c a p messageId) := by
  unfold clearPendingAck
  split
  · exact .refl c
  · refine (((quiet_bookkept.of_clearTimer c _).trans (modifyPending_quiet _ _ _)).trans
      (modifyRecord_quiet _ p ⟨rfl, rfl, rfl⟩ fun id h => ?_)).trans (count_quiet _ a _)
    rw [OrderedMap.get_delete, h, ite_self]

theorem addLink_quiet (l : PeerLink) : Quiet c (addLink c l) := { Quiet.refl c with }

end ActorWeb.TransportQuiet
