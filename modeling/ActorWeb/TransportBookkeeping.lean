import ActorWeb.TransportCore
import Mathlib.Logic.Relation

namespace ActorWeb.TransportTicks

open TransportContract TransportCore

/-- A change to a record that leaves its frames and its numbering alone. -/
structure Steady (r r' : Peer) : Prop where
  identity : r'.identity = r.identity
  sequence : r'.sequence = r.sequence
  lastReceivedSequence : r'.lastReceivedSequence = r.lastReceivedSequence
  idempotencyCache : r'.idempotencyCache = r.idempotencyCache
  pendingAcks : r'.pendingAcks = r.pendingAcks
  outboundQueue : r'.outboundQueue = r.outboundQueue

def TimerTask.plain : TimerTask → Prop
  | .ackRetry _ _ _ => False
  | _ => True

def Job.plain : Job → Prop
  | .drainSend _ _ _ | .claiming _ _ _ => False
  | _ => True

end ActorWeb.TransportTicks

/-! What the operations of a core keep, for every relation that its smallest changes keep. -/

namespace ActorWeb.TransportBookkeeping

open TransportContract TransportCore TransportTicks

variable {R R' : Core → Core → Prop}

structure Bookkept (R : Core → Core → Prop) : Prop where
  refl : ∀ c, R c c
  trans : ∀ {c c' c''}, R c c' → R c' c'' → R c c''
  link : ∀ c l f, R c (c.modifyLink l f)
  record : ∀ c p f, Steady (c.records p) (f (c.records p)) → R c (c.modifyRecord p f)
  dropTimer : ∀ c t, R c (c.setTimer t none)
  addTimer : ∀ c task, TimerTask.plain task → R c (c.addTimer task)
  addJob : ∀ c job, Job.plain job → R c (c.addJob job)
  microtask : ∀ c a p, R c (c.addMicrotask (.retryRejected a p))
  touched : ∀ c a, R c (touchPeerStats c a)
  counted : ∀ c a k, k ≠ .sequenceGapCount → k ≠ .reconnectCount → R c (count c a k)

theorem Bookkept.lift (b : Bookkept R) (hsub : ∀ c c', R c c' → R' c c')
    (htrans : ∀ {c c' c''}, R' c c' → R' c' c'' → R' c c'') : Bookkept R' where
  refl c := hsub _ _ (b.refl c)
  trans := htrans
  link c l f := hsub _ _ (b.link c l f)
  record c p f h := hsub _ _ (b.record c p f h)
  dropTimer c t := hsub _ _ (b.dropTimer c t)
  addTimer c task h := hsub _ _ (b.addTimer c task h)
  addJob c job h := hsub _ _ (b.addJob c job h)
  microtask c a p := hsub _ _ (b.microtask c a p)
  touched c a := hsub _ _ (b.touched c a)
  counted c a k h h' := hsub _ _ (b.counted c a k h h')

section Bookkept

variable (b : Bookkept R) (c : Core)

include b

variable (p : Nat)

theorem Bookkept.of_steady {f : Peer → Peer} (h : Steady (c.records p) (f (c.records p))) :
    R c (c.modifyRecord p f) := b.record c p f h

theorem Bookkept.of_clearTimer (t : Option Nat) : R c (c.clearTimer t) := by
  cases t with
  | none => exact b.refl c
  | some t => exact b.dropTimer c t

theorem Bookkept.of_foldl {α : Type} {f : Core → α → Core} (hf : ∀ c a, R c (f c a)) (as : List α)
    (c : Core) : R c (as.foldl f c) := by
  induction as generalizing c with
  | nil => exact b.refl c
  | cons a as ih => exact b.trans (hf c a) (ih _)

variable (a : String)

theorem Bookkept.of_recordIdempotencyCacheEvictions (evicted : List String) :
    R c (recordIdempotencyCacheEvictions c a evicted) :=
  b.of_foldl (fun c _ => b.counted c a _ (by decide) (by decide)) evicted c

theorem Bookkept.of_recordDuplicateFrameDropped (source : ClaimSource) :
    R c (recordDuplicateFrameDropped c a source) := by
  cases source with
  | memory => exact b.counted c a _ (by decide) (by decide)
  | provider =>
    exact b.trans (b.counted c a _ (by decide) (by decide)) (b.counted _ a _ (by decide) (by decide))

theorem Bookkept.of_recordFrameDropped (code : DropCode) : R c (recordFrameDropped c a code) := by
  cases code with
  | malformedFrame | incompatibleProtocol => exact b.counted c a _ (by decide) (by decide)
  | idempotencyProviderError => exact b.refl c

theorem Bookkept.of_clearHeartbeat : R c (clearHeartbeat c p) :=
  b.trans (b.trans (b.of_clearTimer c _) (b.of_clearTimer _ _))
    (b.of_steady _ p ⟨rfl, rfl, rfl, rfl, rfl, rfl⟩)

theorem Bookkept.of_rejectItem (item : OutboundQueueItem) : R c (rejectItem p c item) := by
  unfold rejectItem
  split
  · exact b.microtask c _ p
  · exact b.refl c

theorem Bookkept.of_markPeerSeen (l : Nat) : R c (markPeerSeen c a l) := by
  unfold markPeerSeen
  split
  · exact b.refl c
  · split
    · exact b.trans (b.of_clearTimer c _) (b.of_steady _ _ ⟨rfl, rfl, rfl, rfl, rfl, rfl⟩)
    · exact b.refl c

theorem Bookkept.of_sendControl (p : Nat) : R c (sendControl c a p) :=
  b.addJob c _ trivial

theorem Bookkept.of_leaveDrain : R c (leaveDrain c p) :=
  b.of_steady c p ⟨rfl, rfl, rfl, rfl, rfl, rfl⟩

theorem Bookkept.of_armHeartbeatTimeout (p : Nat) : R c (armHeartbeatTimeout c a p) := by
  unfold armHeartbeatTimeout
  split
  · exact b.refl c
  · exact b.trans (b.of_steady c p ⟨rfl, rfl, rfl, rfl, rfl, rfl⟩) (b.addTimer _ _ trivial)

theorem Bookkept.of_heartbeatIntervalFires (p : Nat) : R c (heartbeatIntervalFires c a p) := by
  unfold heartbeatIntervalFires
  split
  · exact b.of_clearHeartbeat c p
  · split
    · exact b.of_armHeartbeatTimeout c a p
    · exact b.trans (b.of_sendControl c a p) (b.of_armHeartbeatTimeout _ a p)

theorem Bookkept.of_startHeartbeat (p : Nat) : R c (startHeartbeat c a p) := by
  unfold startHeartbeat
  split
  · exact b.refl c
  · exact b.trans (b.of_steady c p ⟨rfl, rfl, rfl, rfl, rfl, rfl⟩) (b.addTimer _ _ trivial)

theorem Bookkept.of_listenAlive (link p : Nat) : R c (listenAlive c a link p) := by
  unfold listenAlive
  split
  · exact b.trans (b.link c link _) (b.of_steady _ p ⟨rfl, rfl, rfl, rfl, rfl, rfl⟩)
  · exact b.refl c

theorem Bookkept.of_recordInboundHandshakeRejection (auth : Bool) :
    R c (recordInboundHandshakeRejection c a auth) := by
  unfold recordInboundHandshakeRejection
  split
  · exact b.refl c
  · split
    · exact b.trans (b.touched c a) (b.counted _ a _ (by decide) (by decide))
    · exact b.counted c a _ (by decide) (by decide)

theorem Bookkept.of_closeLink (l : Nat) : R c (closeLink c l) := b.link c l _

theorem Bookkept.of_connect : R c (connect c a) := by
  unfold connect
  split
  · exact b.refl c
  · split
    · exact b.refl c
    · exact b.trans (b.touched c a) (b.addJob _ _ trivial)

end Bookkept

structure Closing (R : Core → Core → Prop) : Prop extends Bookkept R where
  closePeer : ∀ c {a p}, c.peers.get a = some p → ∀ emitDisconnected,
    R c (TransportCore.closePeer c a p emitDisconnected)

theorem Closing.lift (b : Closing R) (hsub : ∀ c c', R c c' → R' c c')
    (htrans : ∀ {c c' c''}, R' c c' → R' c' c'' → R' c c'') : Closing R' :=
  ⟨b.toBookkept.lift hsub htrans, fun c _ _ hp e => hsub _ _ (b.closePeer c hp e)⟩

section Closing

variable (b : Closing R) (c : Core)

include b

theorem Closing.of_disconnect (a : String) : R c (disconnect c a) := by
  unfold disconnect
  split
  case h_1 => exact b.refl c
  case h_2 p hp => exact b.closePeer c hp true

theorem Closing.of_handlePeerClosed (a : String) (l : Nat) : R c (handlePeerClosed c a l) := by
  unfold handlePeerClosed
  split
  case h_1 => exact b.refl c
  case h_2 p hp =>
    split
    · exact b.closePeer c hp true
    · exact b.refl c

theorem Closing.of_dropAndDisconnect (a : String) (code : DropCode) :
    R c (dropAndDisconnect c a code) := b.trans (b.of_recordFrameDropped c a code) (b.of_disconnect _ a)

theorem Closing.of_handleHeartbeatFrame (a : String) (p : Nat) (ping : Bool)
    (source destination : RuntimeNodeIdentity) :
    R c (handleHeartbeatFrame c a p ping source destination) := by
  unfold handleHeartbeatFrame
  split
  · exact b.of_dropAndDisconnect c a _
  · split
    · exact b.trans (b.of_markPeerSeen c a _) (b.of_sendControl _ a p)
    · exact b.of_markPeerSeen c a _

theorem Closing.of_heartbeatTimeoutFires (a : String) (p : Nat) :
    R c (heartbeatTimeoutFires c a p) := by
  refine b.trans (b.record c p (fun r => { r with heartbeatTimeout := none })
    ⟨rfl, rfl, rfl, rfl, rfl, rfl⟩) ?_
  unfold heartbeatTimeoutFires
  simp only
  split
  case isTrue => exact b.refl _
  case isFalse hregistered =>
    have hp : c.peers.get a = some p := by
      rw [Bool.not_eq_true', Bool.not_eq_false] at hregistered
      exact of_decide_eq_true hregistered
    split
    · have hcounted := b.counted (c.modifyRecord p fun r => { r with heartbeatTimeout := none }) a
        .heartbeatTimeoutCount (by decide) (by decide)
      exact b.trans hcounted (b.closePeer (count (c.modifyRecord p fun r =>
        { r with heartbeatTimeout := none }) a .heartbeatTimeoutCount) hp true)
    · exact b.of_armHeartbeatTimeout _ a p

theorem Closing.of_replacePeer (link : Nat) (identity : RuntimeNodeIdentity) :
    R c (replacePeer c link identity) := by
  unfold replacePeer
  split
  case h_1 => exact b.refl c
  case h_2 existing hexisting =>
    split
    · exact b.refl c
    · exact b.closePeer c hexisting false

end Closing

end ActorWeb.TransportBookkeeping
