import ActorWeb.MapSum
import ActorWeb.TransportMoves

namespace ActorWeb.TransportStats

open Function OrderedMap

open TransportContract TransportCore TransportQuiet TransportOwnership TransportMoves Transition
  TransportTicks TransportBookkeeping

/-- Every counter of the transport is the sum over the peers. A peer that never disconnected
has not reconnected. -/
structure Balanced (s : Stats) : Prop where
  sums : ∀ k, s.total k = s.peers.sumBy fun counts => counts k
  reconnects : ∀ a, ((s.peers.get a).getD fun _ => 0) .disconnectCount = 0 →
    ((s.peers.get a).getD fun _ => 0) .reconnectCount = 0

def queued (c : Core) : Nat := c.peers.sumBy fun p => (c.records p).outboundQueue.length

theorem touch_getD (c : Core) (a b : String) :
    ((touchPeerStats c a).stats.peers.get b).getD (fun _ => 0) =
      (c.stats.peers.get b).getD fun _ => 0 := by
  rw [touchPeerStats, get_set]
  split
  case isTrue h => rw [h, Option.getD_some]
  case isFalse => rfl

theorem balanced_touch {c : Core} (h : Balanced c.stats) (a : String) :
    Balanced (touchPeerStats c a).stats where
  sums := by
    intro k
    have hset := OrderedMap.sumBy_set_add (fun counts => counts k) c.stats.peers a
      ((c.stats.peers.get a).getD fun _ => 0) (z := fun _ => 0) rfl
    have hsum := h.sums k
    simp only [touchPeerStats]
    omega
  reconnects := by
    intro b
    rw [touch_getD]
    exact h.reconnects b

theorem setPeerCount_getD (c : Core) (a b : String) (k : Counter) (n : Nat) :
    ((setPeerCount c a k n).stats.peers.get b).getD (fun _ => 0) =
      if b = a then Function.update ((c.stats.peers.get a).getD fun _ => 0) k n
      else (c.stats.peers.get b).getD fun _ => 0 := by
  rw [setPeerCount, get_set]
  split <;> rfl

theorem setPeerCount_sums {c : Core} {k : Counter} {n : Nat} {a : String} (k' : Counter) :
    (setPeerCount c a k n).stats.peers.sumBy (fun counts => counts k') +
        (if k' = k then peerCount c a k else 0) =
      c.stats.peers.sumBy (fun counts => counts k') + if k' = k then n else 0 := by
  have hset := OrderedMap.sumBy_set_add (fun counts => counts k') c.stats.peers a
    (Function.update ((c.stats.peers.get a).getD fun _ => 0) k n) (z := fun _ => 0) rfl
  simp only [setPeerCount, peerCount]
  by_cases hk : k' = k
  · subst hk
    simp only [update_self, if_true] at hset ⊢
    exact hset
  · simp only [update_of_ne hk, hk, if_false] at hset ⊢
    omega

theorem balanced_count {c : Core} (h : Balanced c.stats) (a : String) {k : Counter}
    (hk : k = .reconnectCount → peerCount c a .disconnectCount ≠ 0) : Balanced (count c a k).stats where
  sums := by
    intro k'
    have hsums := setPeerCount_sums (c := countTotal c k) (k := k) (n := peerCount c a k + 1) (a := a) k'
    have hsum := h.sums k'
    simp only [count]
    by_cases hk' : k' = k
    · subst hk'
      simp only [if_true] at hsums
      have htotal : (setPeerCount (countTotal c k') a k' (peerCount c a k' + 1)).stats.total k' =
          c.stats.total k' + 1 := update_self _ _ _
      have hpeers : (countTotal c k').stats.peers = c.stats.peers := rfl
      have hcount : peerCount (countTotal c k') a k' = peerCount c a k' := rfl
      rw [hpeers, hcount] at hsums
      omega
    · simp only [hk', if_false, Nat.add_zero] at hsums
      have htotal : (setPeerCount (countTotal c k) a k (peerCount c a k + 1)).stats.total k' =
          c.stats.total k' := update_of_ne hk' _ _
      rw [hsums, htotal, hsum]
      rfl
  reconnects := by
    intro b
    rw [count, setPeerCount_getD]
    split
    case isTrue hb =>
      subst hb
      by_cases hd : k = .disconnectCount
      · subst hd
        simp
      · rw [update_of_ne (Ne.symm hd)]
        intro hzero
        have hne : Counter.reconnectCount ≠ k := fun heq => hk heq.symm hzero
        rw [update_of_ne hne]
        exact h.reconnects b hzero
    case isFalse => exact h.reconnects b

theorem peerCount_count_ne (c : Core) (a : String) {k k' : Counter} (h : k' ≠ k) :
    peerCount (count c a k) a k' = peerCount c a k' := by
  simp only [peerCount, count, setPeerCount_getD, if_true]
  exact update_of_ne h _ _

theorem recordPeerConnected_eq (c : Core) (a : String) : recordPeerConnected c a =
      if peerCount c a .disconnectCount ≠ 0 then
        count (count c a .handshakeAcceptedCount) a .reconnectCount
      else setPeerCount (count c a .handshakeAcceptedCount) a .reconnectCount 0 := by
  have hreconnects := @peerCount_count_ne c a .handshakeAcceptedCount .reconnectCount (by decide)
  simp only [recordPeerConnected]
  split
  case isTrue =>
    exact congrArg (setPeerCount _ a .reconnectCount) (congrArg Nat.succ hreconnects.symm)
  case isFalse => rfl

theorem balanced_connected {c : Core} (h : Balanced c.stats) (a : String) :
    Balanced (recordPeerConnected c a).stats := by
  have haccepted := balanced_count h a (k := .handshakeAcceptedCount) (by simp)
  rw [recordPeerConnected_eq]
  split
  case isTrue hagain =>
    refine balanced_count haccepted a fun _ => ?_
    rwa [peerCount_count_ne c a (by decide)]
  case isFalse hfirst =>
    -- nothing changes: the counter was 0 already
    have hzero : peerCount (count c a .handshakeAcceptedCount) a .reconnectCount = 0 := by
      rw [peerCount_count_ne c a (by decide)]
      exact h.reconnects a (Decidable.not_not.mp hfirst)
    constructor
    · intro k
      have hsums := setPeerCount_sums (c := count c a .handshakeAcceptedCount) (k := .reconnectCount)
        (n := 0) (a := a) k
      have hsum := haccepted.sums k
      rw [hzero, ite_self, Nat.add_zero, Nat.add_zero] at hsums
      exact hsum.trans hsums.symm
    · intro b
      rw [setPeerCount_getD]
      split
      case isTrue hb => exact fun _ => update_self _ _ _
      case isFalse => exact haccepted.reconnects b

structure Still (c c' : Core) : Prop where
  peers : c'.peers = c.peers
  nextRecord : c'.nextRecord = c.nextRecord
  queue : ∀ p, (c'.records p).outboundQueue = (c.records p).outboundQueue
  depth : c'.stats.outboundQueueDepth = c.stats.outboundQueueDepth
  books : Balanced c.stats → Balanced c'.stats

namespace Still

variable {c c' c'' : Core}

theorem refl (c : Core) : Still c c := ⟨rfl, rfl, fun _ => rfl, rfl, id⟩

theorem trans (s : Still c c') (s' : Still c' c'') : Still c c'' where
  peers := s'.peers.trans s.peers
  nextRecord := s'.nextRecord.trans s.nextRecord
  queue p := (s'.queue p).trans (s.queue p)
  depth := s'.depth.trans s.depth
  books := s'.books ∘ s.books

theorem queued_eq (s : Still c c') : queued c' = queued c := by
  simp only [queued, s.peers, s.queue]

end Still

section StillOperations

variable (c : Core)

theorem modifyRecord_still (p : Nat) {f : Peer → Peer}
    (hf : (f (c.records p)).outboundQueue = (c.records p).outboundQueue) :
    Still c (c.modifyRecord p f) := by
  refine { Still.refl c with queue := fun q => ?_ }
  by_cases hq : q = p
  · subst hq
    rw [Core.modifyRecord_records_self, hf]
  · rw [Core.modifyRecord_records_ne c f hq]

theorem modifyPending_still (i : Nat) (f : PendingAck → PendingAck) : Still c (c.modifyPending i f) :=
  { Still.refl c with }

theorem addTimer_still (task : TimerTask) : Still c (c.addTimer task) := { Still.refl c with }

theorem addJob_still (job : Job) : Still c (c.addJob job) := { Still.refl c with }

theorem setJob_still (j : Nat) (job : Option Job) : Still c (c.setJob j job) := { Still.refl c with }

theorem addMicrotask_still (m : Microtask) : Still c (c.addMicrotask m) := { Still.refl c with }

theorem emit_still (e : Event) : Still c (c.emit e) := { Still.refl c with }

variable (a : String)

theorem touchPeerStats_still : Still c (touchPeerStats c a) :=
  { Still.refl c with books := fun h => balanced_touch h a }

theorem count_still {k : Counter} (hk : k ≠ .reconnectCount) : Still c (count c a k) :=
  { Still.refl c with books := fun h => balanced_count h a fun heq => absurd heq hk }

theorem recordPeerConnected_still : Still c (recordPeerConnected c a) := by
  refine { Still.refl c with
    peers := ?_, nextRecord := ?_, queue := fun p => ?_, depth := ?_
    books := fun h => balanced_connected h a }
  all_goals
    rw [recordPeerConnected_eq]
    split <;> simp only [count, setPeerCount, countTotal]

theorem still_bookkept : Bookkept Still where
  refl := .refl
  trans := .trans
  link c _ _ := { Still.refl c with }
  record c p _ h := modifyRecord_still c p h.outboundQueue
  dropTimer c _ := { Still.refl c with }
  addTimer c task _ := addTimer_still c task
  addJob c job _ := addJob_still c job
  microtask c _ _ := addMicrotask_still c _
  touched := touchPeerStats_still
  counted c a _ _ hk := count_still c a hk

theorem recordFrameReceived_still (p : Nat) (frame : RuntimeTransportFrame) :
    Still c (recordFrameReceived c a p frame) := by
  unfold recordFrameReceived
  refine Still.trans (Still.trans ?_ (modifyRecord_still _ p rfl)) (count_still _ a (by decide))
  split
  · exact count_still c a (by decide)
  · exact .refl c

theorem armAckRetry_still (p i : Nat) : Still c (armAckRetry c a p i) :=
  (modifyPending_still c i _).trans (addTimer_still _ _)

theorem trackAckIfRetryable_still (p : Nat) (frame : RuntimeTransportFrame) :
    Still c (trackAckIfRetryable c a p frame) := by
  unfold trackAckIfRetryable
  split
  · exact .refl c
  · split
    · exact .refl c
    · refine Still.trans (Still.trans ?_ (modifyRecord_still _ p rfl)) (armAckRetry_still _ a p _)
      exact { Still.refl c with }

theorem clearPendingAck_still (p : Nat) (messageId : String) :
    Still c (clearPendingAck c a p messageId) := by
  unfold clearPendingAck
  split
  · exact .refl c
  · exact (((still_bookkept.of_clearTimer c _).trans (modifyPending_still _ _ _)).trans
      (modifyRecord_still _ p rfl)).trans (count_still _ a (by decide))

theorem claim_still (p : Nat) (frame : RuntimeTransportFrame) : Still c (claim c a p frame) := by
  unfold claim
  simp only
  split
  · exact { Still.refl c with }
  · split
    · refine Still.trans (Still.trans ?_ (modifyRecord_still _ p rfl)) (addMicrotask_still _ _)
      exact { Still.refl c with }
    · exact (emit_still c _).trans (addJob_still _ _)

theorem claimAnswered_still (job : Nat) (a : String) (p : Nat) (frame : RuntimeTransportFrame)
    (answer : ClaimAnswer) : Still c (claimAnswered c job a p frame answer) := by
  cases answer with
  | claimed | duplicate =>
    exact ((modifyRecord_still c p rfl).trans (emit_still _ _)).trans (addMicrotask_still _ _)
  | error => exact addMicrotask_still c _

theorem addLink_still (l : PeerLink) : Still c (addLink c l) := { Still.refl c with }

end StillOperations

structure Sole (c : Core) : Prop where
  unique : ∀ a b p, c.peers.get a = some p → c.peers.get b = some p → a = b
  old : ∀ a p, c.peers.get a = some p → p < c.nextRecord

/-- Peers only go away or are new, and the depth stays as it was. -/
structure Shed (c c' : Core) : Prop where
  sole : Sole c → Sole c'
  nextRecord : c.nextRecord ≤ c'.nextRecord
  queue : Sole c → ∀ a p, c'.peers.get a = some p →
    c.peers.get a = some p ∧ (c'.records p).outboundQueue = (c.records p).outboundQueue ∨
      c.nextRecord ≤ p ∧ (c'.records p).outboundQueue = []
  depth : c'.stats.outboundQueueDepth = c.stats.outboundQueueDepth
  books : Balanced c.stats → Balanced c'.stats

namespace Still

variable {c c' : Core}

theorem shed (s : Still c c') : Shed c c' where
  sole h := ⟨by rw [s.peers]; exact h.unique, by rw [s.peers, s.nextRecord]; exact h.old⟩
  nextRecord := Nat.le_of_eq s.nextRecord.symm
  queue _ a p hp := .inl ⟨s.peers ▸ hp, s.queue p⟩
  depth := s.depth
  books := s.books

end Still

namespace Shed

variable {c c' c'' : Core}

theorem refl (c : Core) : Shed c c := (Still.refl c).shed

theorem trans (s : Shed c c') (s' : Shed c' c'') : Shed c c'' where
  sole := s'.sole ∘ s.sole
  nextRecord := Nat.le_trans s.nextRecord s'.nextRecord
  queue := by
    intro h a p hp
    obtain ⟨hp', hsame⟩ | ⟨hnew, hempty⟩ := s'.queue (s.sole h) a p hp
    · rw [hsame]
      exact s.queue h a p hp'
    · exact .inr ⟨Nat.le_trans s.nextRecord hnew, hempty⟩
  depth := s'.depth.trans s.depth
  books := s'.books ∘ s.books

end Shed

section Closing

variable (c : Core)

theorem foldl_stats {α : Type} {f : Core → α → Core} (hf : ∀ c a, (f c a).stats = c.stats) (as : List α)
    (c : Core) : (as.foldl f c).stats = c.stats := by
  induction as generalizing c with
  | nil => rfl
  | cons a as ih => exact (ih _).trans (hf c a)

theorem clearTimer_stats (t : Option Nat) : (c.clearTimer t).stats = c.stats := by
  cases t <;> rfl

theorem closing_stats (p : Nat) : (closing c p).stats = c.stats := by
  have hreject : (rejectQueuedFrames (clearPendingAcks (clearHeartbeat c p) p) p).stats =
      (clearPendingAcks (clearHeartbeat c p) p).stats :=
    foldl_stats (fun c item => by unfold rejectItem; split <;> rfl) _ _
  have hacks : (clearPendingAcks (clearHeartbeat c p) p).stats = (clearHeartbeat c p).stats :=
    foldl_stats (fun c i => clearTimer_stats c _) _ _
  have hheartbeat : (clearHeartbeat c p).stats = c.stats :=
    (clearTimer_stats _ _).trans (clearTimer_stats _ _)
  exact hreject.trans (hacks.trans hheartbeat)

theorem closePeer_shed {a : String} {p : Nat} (hp : c.peers.get a = some p) (emitDisconnected : Bool) :
    Shed c (closePeer c a p emitDisconnected) := by
  have hkept := (closePeer_quiet c hp emitDisconnected).toKept
  have hget : ∀ b q, (closePeer c a p emitDisconnected).peers.get b = some q → b ≠ a := by
    intro b q hq hb
    rw [closePeer_peers, hb, get_delete_self] at hq
    cases hq
  constructor
  · intro h
    constructor
    · exact fun b b' q hq hq' => h.unique b b' q (hkept.peers b q hq) (hkept.peers b' q hq')
    · intro b q hq
      rw [hkept.nextRecord]
      exact h.old b q (hkept.peers b q hq)
  · exact Nat.le_of_eq hkept.nextRecord.symm
  · intro h b q hq
    have hne : q ≠ p := fun heq => hget b q hq (h.unique b a p (heq ▸ hkept.peers b q hq) hp)
    exact .inl ⟨hkept.peers b q hq, by rw [closePeer_records_ne c a emitDisconnected hne]⟩
  · have hdepth : (closePeer c a p false).stats.outboundQueueDepth =
        (closing c p).stats.outboundQueueDepth := rfl
    rw [closing_stats] at hdepth
    cases emitDisconnected <;> exact hdepth
  · intro h
    rw [← closing_stats c p] at h
    have hcounted := balanced_count (c := (({ closing c p with
        peers := (closing c p).peers.delete a }.modifyLink ((closing c p).records p).link fun l =>
          { l with isOpen := false }).modifyRecord p fun r => { r with connected := false })) h a
      (k := .disconnectCount) (by simp)
    cases emitDisconnected <;> exact hcounted

theorem shed_closes : Closing Shed :=
  ⟨still_bookkept.lift (fun _ _ => Still.shed) .trans, fun c _ _ hp => closePeer_shed c hp⟩

theorem addPeer_get (link : Nat) (identity : RuntimeNodeIdentity) {a : String} {p : Nat}
    (h : (addPeer c link identity).peers.get a = some p) :
    a = identity.nodeAddress ∧ p = c.nextRecord ∨ a ≠ identity.nodeAddress ∧ c.peers.get a = some p := by
  rw [addPeer, get_set] at h
  split at h
  case isTrue ha => exact .inl ⟨ha, (Option.some.inj h).symm⟩
  case isFalse ha => exact .inr ⟨ha, h⟩

theorem addPeer_shed (link : Nat) (identity : RuntimeNodeIdentity) : Shed c
    (addPeer c link identity) where
  sole := by
    intro h
    constructor
    · intro a b p ha hb
      obtain ⟨rfl, rfl⟩ | ⟨-, ha⟩ := addPeer_get c link identity ha
      · obtain ⟨rfl, -⟩ | ⟨-, hb⟩ := addPeer_get c link identity hb
        · rfl
        · exact absurd (h.old b _ hb) (Nat.lt_irrefl _)
      · obtain ⟨rfl, rfl⟩ | ⟨-, hb⟩ := addPeer_get c link identity hb
        · exact absurd (h.old a _ ha) (Nat.lt_irrefl _)
        · exact h.unique a b p ha hb
    · intro a p ha
      obtain ⟨-, rfl⟩ | ⟨-, ha⟩ := addPeer_get c link identity ha
      · exact Nat.lt_succ_self _
      · exact Nat.lt_succ_of_lt (h.old a p ha)
  nextRecord := Nat.le_succ _
  queue := by
    intro h a p ha
    obtain ⟨-, rfl⟩ | ⟨-, ha⟩ := addPeer_get c link identity ha
    · refine .inr ⟨Nat.le_refl _, ?_⟩
      simp only [addPeer, update_self]
    · have hne : p ≠ c.nextRecord := Nat.ne_of_lt (h.old a p ha)
      refine .inl ⟨ha, ?_⟩
      simp only [addPeer, update_of_ne hne]
  depth := rfl
  books := id

theorem shed_receiving (frames : List RuntimeTransportFrame) : Receiving frames Shed where
  toClosing := shed_closes
  newLink c l := (addLink_still c l).shed
  register := addPeer_shed
  connected c a := (recordPeerConnected_still c a).shed
  announced c a p := (emit_still c (.connected a p)).shed
  arrive c a p frame _ _ _ := (claim_still c a p frame).shed
  ack c a p messageId _ := ((emit_still c _).trans (clearPendingAck_still _ a p messageId)).shed
  dropJob c job _ := (setJob_still c job none).shed
  clock c _ := Still.shed { Still.refl c with }

theorem claimResumed_shed (job : Nat) (a : String) (p : Nat) (frame : RuntimeTransportFrame)
    (outcome : ClaimOutcome) : Shed c (claimResumed c job a p frame outcome) := by
  cases outcome with
  | error => exact (count_still c a (by decide)).shed.trans (shed_closes.of_dropAndDisconnect _ a _)
  | duplicate source evicted =>
    exact ((((still_bookkept.of_recordIdempotencyCacheEvictions c a evicted).trans
      (still_bookkept.of_recordDuplicateFrameDropped _ a source)).trans (emit_still _ _)).trans
      (still_bookkept.of_sendControl _ a p)).shed
  | accepted source evicted =>
    have hevicted := still_bookkept.of_recordIdempotencyCacheEvictions c a evicted
    cases source with
    | memory =>
      exact ((((hevicted.trans (recordFrameReceived_still _ a p frame)).trans
        (emit_still _ _)).trans (still_bookkept.of_sendControl _ a p)).trans (emit_still _ _)).shed
    | provider =>
      exact (((((hevicted.trans (count_still _ a (by decide))).trans
        (recordFrameReceived_still _ a p frame)).trans (emit_still _ _)).trans
        (still_bookkept.of_sendControl _ a p)).trans (emit_still _ _)).shed

end Closing

structure Computed (c c' : Core) : Prop where
  peers : c'.peers = c.peers
  sole : Sole c → Sole c'
  depth : c'.stats.outboundQueueDepth = queued c'
  books : Balanced c.stats → Balanced c'.stats

/-- A step computes the depth at its end, or it leaves the depth and takes peers away. -/
def Tallied (c c' : Core) : Prop := Computed c c' ∨ Shed c c'

namespace Tallied

variable {c c' c'' : Core}

theorem of_still (s : Still c c') (t : Tallied c' c'') : Tallied c c'' :=
  t.imp (fun k => ⟨k.peers.trans s.peers, k.sole ∘ s.shed.sole, k.depth, k.books ∘ s.books⟩) s.shed.trans

end Tallied

theorem Computed.trans {c c' c'' : Core} (k : Computed c c') (k' : Computed c' c'') : Computed c c'' :=
  ⟨k'.peers.trans k.peers, k'.sole ∘ k.sole, k'.depth, k'.books ∘ k.books⟩

theorem Computed.trans_still {c c' c'' : Core} (k : Computed c c') (s : Still c' c'') : Computed c c'' :=
  ⟨s.peers.trans k.peers, s.shed.sole ∘ k.sole, by rw [s.depth, k.depth, s.queued_eq], s.books ∘ k.books⟩

section Queues

variable (c : Core)

theorem updateOutboundQueueDepth_computed (a : String) (p : Nat) (f : Peer → Peer) :
    Computed c (updateOutboundQueueDepth (c.modifyRecord p f) a) where
  peers := rfl
  sole h := ⟨h.unique, h.old⟩
  depth := rfl
  books h := by
    have htouched := balanced_touch (c := c.modifyRecord p f) h a
    exact ⟨htouched.sums, htouched.reconnects⟩

theorem drainOutboundQueue_tallied (a : String) (p : Nat) : Tallied c (drainOutboundQueue c a p) := by
  unfold drainOutboundQueue
  split
  · exact .inr (still_bookkept.of_leaveDrain c p).shed
  · split
    · exact .inl (((updateOutboundQueueDepth_computed c a p _).trans_still (addJob_still _ _)).trans_still
        (emit_still _ _))
    · exact .inr (still_bookkept.of_leaveDrain c p).shed

theorem flushOutboundQueue_tallied (a : String) (p : Nat) : Tallied c (flushOutboundQueue c a p) := by
  unfold flushOutboundQueue
  split
  · exact .inr (.refl c)
  · exact .of_still (modifyRecord_still c p rfl) (drainOutboundQueue_tallied _ a p)

theorem Computed.flush {c c' : Core} (k : Computed c c') (a : String) (p : Nat) :
    Computed c (flushOutboundQueue c' a p) := by
  unfold flushOutboundQueue
  split
  · exact k
  · have hflushing := k.trans_still
      (modifyRecord_still c' p (f := fun r => { r with outboundFlushing := true }) rfl)
    unfold drainOutboundQueue
    split
    · exact hflushing.trans_still (still_bookkept.of_leaveDrain _ p)
    · split
      · exact hflushing.trans (((updateOutboundQueueDepth_computed _ a p _).trans_still
          (addJob_still _ _)).trans_still (emit_still _ _))
      · exact hflushing.trans_still (still_bookkept.of_leaveDrain _ p)

theorem enqueueFrame_tallied (a : String) (p : Nat) (item : OutboundQueueItem) :
    Tallied c (enqueueFrame c a p item) := by
  unfold enqueueFrame
  split
  · exact .inr (((count_still c a (by decide)).trans (count_still _ a (by decide))).trans
      (still_bookkept.of_rejectItem _ p item)).shed
  · exact .inl ((updateOutboundQueueDepth_computed c a p _).flush a p)

theorem send_tallied (destination : String) (message : ActorMessage) :
    Tallied c (send c destination message) := by
  unfold send
  split
  · exact .inr (.refl c)
  · simp only
    split
    · exact .inr ((count_still c _ (by decide)).trans (count_still _ _ (by decide))).shed
    · exact .of_still ((modifyRecord_still c _ rfl).trans (emit_still _ _)) (enqueueFrame_tallied _ _ _ _)

theorem flushPeer_tallied (a : String) : Tallied c (flushPeer c a) := by
  unfold flushPeer
  split
  · exact .inr (.refl c)
  · exact flushOutboundQueue_tallied c a _

theorem ackRetryFires_tallied (a : String) (p i : Nat) : Tallied c (ackRetryFires c a p i) := by
  unfold ackRetryFires
  simp only
  split
  · exact .inr (.refl c)
  · split
    · exact .inr (((modifyRecord_still c p rfl).trans (count_still _ a (by decide))).trans
        (emit_still _ _)).shed
    · exact .inr (armAckRetry_still c a p i).shed
    · exact .of_still ((((modifyPending_still c i _).trans (count_still _ a (by decide))).trans
        (emit_still _ _)).trans (armAckRetry_still _ a p i)) (enqueueFrame_tallied _ _ _ _)

theorem drainSettled_tallied (a : String) (p : Nat) (item : OutboundQueueItem) (ok : Bool) :
    Tallied c (drainSettled c a p item ok) := by
  unfold drainSettled
  split
  · refine .of_still ?_ (drainOutboundQueue_tallied _ a p)
    have hsent : Still c (recordFrameSent c a) := count_still c a (by decide)
    split
    · exact hsent.trans (trackAckIfRetryable_still _ a p _)
    · exact hsent
  · exact .inr (((still_bookkept.of_rejectItem c p item).shed.trans
    (shed_closes.of_disconnect _ a)).trans (still_bookkept.of_leaveDrain _ p).shed)

end Queues

theorem step_tallied {c c' : Core} {a : Action} (h : step c a = some c') : Tallied c c' := by
  cases a with
  | send destination message =>
    cases h
    exact send_tallied c destination message
  | sendSettled job ok =>
    simp only [step] at h
    split at h
    case h_1 nodeAddress p item hjob =>
      cases h
      exact .of_still (setJob_still c job none) (drainSettled_tallied _ nodeAddress p item ok)
    case h_2 nodeAddress p hjob =>
      cases h
      split
      · exact .inr (setJob_still c job none).shed
      · exact .inr ((setJob_still c job none).shed.trans (shed_closes.of_disconnect _ nodeAddress))
    case h_3 => cases h
  | providerAnswers job answer =>
    obtain ⟨nodeAddress, p, frame, -, rfl⟩ := providerAnswers_cases h
    exact .inr ((setJob_still c job none).trans
      (claimAnswered_still _ job nodeAddress p frame answer)).shed
  | microtask =>
    simp only [step] at h
    split at h
    case h_1 m rest hm =>
      cases h
      have hpopped : Still c { c with microtasks := rest } := { Still.refl c with }
      cases m with
      | claimed job nodeAddress p frame outcome =>
        exact .inr (hpopped.shed.trans (claimResumed_shed _ job nodeAddress p frame outcome))
      | retryRejected nodeAddress p => exact .inr (hpopped.shed.trans (shed_closes.of_disconnect _ nodeAddress))
    case h_2 => cases h
  | timer t =>
    obtain ⟨task, -, rfl⟩ := Option.map_eq_some_iff.mp h
    have hcleared : Still c (c.setTimer t none) := { Still.refl c with }
    cases task with
    | heartbeatInterval nodeAddress p => exact .inr (still_bookkept.of_heartbeatIntervalFires c nodeAddress p).shed
    | heartbeatTimeout nodeAddress p =>
      exact .inr (hcleared.shed.trans (shed_closes.of_heartbeatTimeoutFires _ nodeAddress p))
    | ackRetry nodeAddress p i => exact .of_still hcleared (ackRetryFires_tallied _ nodeAddress p i)
  | connect | dialSettled | authSettled | acceptInbound | rejectInbound | disconnect | flushPeer | linkFact
  | linkAlive | linkOpens | clock | stop =>
    obtain hshed | ⟨address, -, rfl⟩ := (shed_receiving _).step (by trivial) h
    · exact .inr hshed
    · exact flushPeer_tallied c address

def Drained (c : Core) (a : Action) : Prop :=
  ∀ c', step c a = some c' → ∀ nodeAddress p, c.peers.get nodeAddress = some p →
    c'.peers.get nodeAddress ≠ some p → (c.records p).outboundQueue = []

def Accurate (c : Core) : Prop :=
  (∀ k, c.stats.total k = c.stats.peers.sumBy fun counts => counts k) ∧
    c.stats.outboundQueueDepth = queued c

theorem Shed.queued_le {c c' : Core} (s : Shed c c') (h : Sole c) : queued c' ≤ queued c := by
  refine OrderedMap.sumBy_le fun a p hp hlen => ?_
  obtain ⟨hold, hsame⟩ | ⟨-, hempty⟩ := s.queue h a p hp
  · exact ⟨hold, Nat.le_of_eq (by rw [hsame])⟩
  · rw [hempty] at hlen
    exact absurd rfl hlen

theorem Shed.queued_eq_iff {c c' : Core} (s : Shed c c') (h : Sole c) :
    queued c' = queued c ↔ ∀ a p, c.peers.get a = some p → c'.peers.get a ≠ some p →
      (c.records p).outboundQueue = [] := by
  constructor
  · intro heq a p hp hgone
    by_contra hne
    have hlt : queued c' ≤ (c.peers.delete a).sumBy fun p => (c.records p).outboundQueue.length := by
      refine OrderedMap.sumBy_le fun b q hq hlen => ?_
      obtain ⟨hold, hsame⟩ | ⟨-, hempty⟩ := s.queue h b q hq
      · have hba : b ≠ a := by
          rintro rfl
          rw [Option.some.inj (hold.symm.trans hp)] at hq
          exact hgone hq
        exact ⟨by rw [get_delete_ne _ hba, hold], Nat.le_of_eq (by rw [hsame])⟩
      · rw [hempty] at hlen
        exact absurd rfl hlen
    have hsplit := OrderedMap.sumBy_delete (fun p => (c.records p).outboundQueue.length) c.peers a
    have hpos := List.length_pos_iff.mpr hne
    rw [hp, Option.elim_some] at hsplit
    rw [queued] at heq hlt
    rw [queued] at heq
    omega
  · intro hgone
    refine Nat.le_antisymm (s.queued_le h) (OrderedMap.sumBy_le fun a p hp hlen => ?_)
    have hstays : c'.peers.get a = some p := by
      by_contra hne
      rw [hgone a p hp hne] at hlen
      exact hlen rfl
    obtain ⟨-, hsame⟩ | ⟨hnew, -⟩ := s.queue h a p hstays
    · exact ⟨hstays, Nat.le_of_eq (by rw [hsame])⟩
    · exact absurd (h.old a p hp) (Nat.not_lt_of_le hnew)

structure Inv (c : Core) : Prop where
  sole : Sole c
  books : Balanced c.stats

theorem create_inv (config : Config) : Inv (create config) where
  sole := ⟨by intro a b p h; simp [create] at h, by intro a p h; simp [create] at h⟩
  books := ⟨fun _ => rfl, fun _ _ => rfl⟩

theorem step_inv {c c' : Core} {a : Action} (i : Inv c) (h : step c a = some c') : Inv c' :=
  (step_tallied h).elim (fun k => ⟨k.sole i.sole, k.books i.books⟩)
    fun s => ⟨s.sole i.sole, s.books i.books⟩

theorem step_accurate_iff {c c' : Core} {a : Action} (i : Inv c) (hc : Accurate c)
    (h : step c a = some c') : Accurate c' ↔ Drained c a := by
  have hsums := (step_inv i h).books.sums
  have hdrained : Drained c a ↔ ∀ nodeAddress p, c.peers.get nodeAddress = some p →
      c'.peers.get nodeAddress ≠ some p → (c.records p).outboundQueue = [] := by
    simp only [Drained, h, Option.some.injEq, forall_eq']
  rw [hdrained]
  obtain k | s := step_tallied h
  · refine ⟨fun _ a p hp hgone => ?_, fun _ => ⟨hsums, k.depth⟩⟩
    rw [k.peers] at hgone
    exact absurd hp hgone
  · rw [← s.queued_eq_iff i.sole, Accurate, s.depth, hc.2, eq_comm]
    exact ⟨And.right, And.intro hsums⟩

section Leftover

def leftoverRun : List Action :=
  [.acceptInbound (linkFrom identityB) [], .send "b" ⟨"user.message", "first"⟩,
    .send "b" ⟨"user.message", "second"⟩, .disconnect "b"]

end Leftover

end ActorWeb.TransportStats
