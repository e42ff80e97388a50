import ActorWeb.TransportMoves

/-! What the steps of a core are made of, as far as frames are queued, handed to links,
watched and received. -/

namespace ActorWeb.TransportTicks

open TransportContract TransportCore TransportQuiet TransportOwnership TransportMoves
  TransportBookkeeping

/-- An event that tells neither of the way of a frame to its link or to a claim nor of a retry. -/
def Neutral : Event → Prop
  | .numbered _ _ | .linkSend _ _ | .arrived _ _ _ | .claimAnswered _ _ _ _ | .retryScheduled _ _
  | .retryExhausted _ _ => False
  | _ => True

inductive Tick : Core → Core → Prop
  | stats (c : Core) (s : Stats) (h : s.total .sequenceGapCount = c.stats.total .sequenceGapCount) :
      Tick c { c with stats := s }
  | link (c : Core) (l : Nat) (f : PeerLink → PeerLink) : Tick c (c.modifyLink l f)
  | newLink (c : Core) (l : PeerLink) : Tick c (addLink c l)
  | record (c : Core) (p : Nat) (f : Peer → Peer) (h : Steady (c.records p) (f (c.records p))) :
      Tick c (c.modifyRecord p f)
  | remove (c : Core) (a : String) (p : Nat) (h : c.peers.get a = some p) :
      Tick c { c.modifyRecord p fun r => { r with outboundQueue := [] } with
        peers := c.peers.delete a }
  | forget (c : Core) (p : Nat) : Tick c (c.modifyRecord p fun r => { r with pendingAcks := .empty })
  | dropTimer (c : Core) (t : Nat) : Tick c (c.setTimer t none)
  | addTimer (c : Core) (task : TimerTask) (h : TimerTask.plain task) : Tick c (c.addTimer task)
  | addJob (c : Core) (job : Job) (h : Job.plain job) : Tick c (c.addJob job)
  | dropJob (c : Core) (j : Nat) (h : ∀ a p f, c.jobs j ≠ some (.claiming a p f)) :
      Tick c (c.setJob j none)
  | microtask (c : Core) (a : String) (p : Nat) : Tick c (c.addMicrotask (.retryRejected a p))
  | emit (c : Core) (e : Event) (h : Neutral e) : Tick c (c.emit e)
  | clock (c : Core) (now : Int) : Tick c { c with now := now }

abbrev Ticks : Core → Core → Prop := Relation.ReflTransGen Tick

section Registered

variable {c c' : Core}

theorem kept_of_tick (h : Tick c c') : Kept c c' := by
  cases h with
  | stats s h | link l f | newLink l | dropTimer t | addTimer task h | addJob job h | dropJob j h
  | microtask a p | clock now => exact { Kept.refl c with }
  | record p f h => exact modifyRecord_kept c p h.identity h.pendingAcks
  | remove a p h =>
    have hrecord : Kept c (c.modifyRecord p fun r => { r with outboundQueue := [] }) :=
      modifyRecord_kept c p rfl rfl
    refine { hrecord with peers := fun b q hq => ?_ }
    rw [OrderedMap.get_delete] at hq
    split at hq
    · cases hq
    · exact hq
  | forget p =>
    refine (modifyRecord_quiet c p ⟨rfl, rfl, rfl⟩ fun id _ => ?_).toKept
    simp [OrderedMap.get, OrderedMap.empty]
  | emit e h => exact emit_kept c e

end Registered

section Bookkeeping

variable (c : Core)

theorem stats_ticks (s : Stats) (h : s.total .sequenceGapCount = c.stats.total .sequenceGapCount) :
    Ticks c { c with stats := s } := .single (.stats c s h)

variable (p : Nat)

theorem record_ticks (f : Peer → Peer) (h : Steady (c.records p) (f (c.records p))) :
    Ticks c (c.modifyRecord p f) := .single (.record c p f h)

variable (a : String)

theorem touchPeerStats_ticks : Ticks c (touchPeerStats c a) := stats_ticks c _ rfl

theorem setPeerCount_ticks (k : Counter) (n : Nat) : Ticks c (setPeerCount c a k n) :=
  stats_ticks c _ rfl

theorem countTotal_ticks {k : Counter} (hk : k ≠ .sequenceGapCount) : Ticks c (countTotal c k) :=
  stats_ticks c _ (Function.update_of_ne hk.symm _ _)

theorem count_total {k : Counter} (hk : k ≠ .sequenceGapCount) :
    (count c a k).stats.total .sequenceGapCount = c.stats.total .sequenceGapCount :=
  Function.update_of_ne hk.symm _ _

theorem count_ticks {k : Counter} (hk : k ≠ .sequenceGapCount) : Ticks c (count c a k) :=
  (countTotal_ticks c hk).trans (setPeerCount_ticks _ a k _)

theorem updateOutboundQueueDepth_ticks : Ticks c (updateOutboundQueueDepth c a) :=
  (touchPeerStats_ticks c a).trans (stats_ticks _ _ rfl)

theorem recordPeerConnected_ticks : Ticks c (recordPeerConnected c a) := by
  unfold recordPeerConnected
  refine Relation.ReflTransGen.trans ?_ (setPeerCount_ticks _ _ _ _)
  split
  · exact (count_ticks c a (by decide)).trans (countTotal_ticks _ (by decide))
  · exact count_ticks c a (by decide)

theorem ticks_bookkept : Bookkept Ticks where
  refl _ := .refl
  trans := .trans
  link c l f := .single (.link c l f)
  record := record_ticks
  dropTimer c t := .single (.dropTimer c t)
  addTimer c task h := .single (.addTimer c task h)
  addJob c job h := .single (.addJob c job h)
  microtask c a p := .single (.microtask c a p)
  touched := touchPeerStats_ticks
  counted c a _ hk _ := count_ticks c a hk

theorem clearPendingAcks_ticks : Ticks c (clearPendingAcks c p) :=
  (ticks_bookkept.of_foldl (fun c i => ticks_bookkept.of_clearTimer c
    (c.pendings i).timer) _ c).tail (.forget _ p)

theorem unlisten_ticks : Ticks c (unlisten c p) := .single (.link c _ _)

theorem clearPendingAcks_peers : (clearPendingAcks (clearHeartbeat c p) p).peers = c.peers := by
  have hacks : (clearPendingAcks (clearHeartbeat c p) p).peers = (clearHeartbeat c p).peers :=
    foldl_peers (fun c i => clearTimer_peers c _) _ _
  exact hacks.trans ((clearTimer_peers _ _).trans (clearTimer_peers _ _))

theorem rejectItems_with_peers (peers : OrderedMap String Nat)
    (items : List OutboundQueueItem) (c : Core) :
    items.foldl (rejectItem p) { c with peers := peers } =
      { items.foldl (rejectItem p) c with peers := peers } := by
  induction items generalizing c with
  | nil => rfl
  | cons item items ih =>
    have hitem : rejectItem p { c with peers := peers } item =
        { rejectItem p c item with peers := peers } := by
      unfold rejectItem
      split <;> rfl
    rw [List.foldl_cons, List.foldl_cons, hitem, ih]

theorem removed_ticks {a : String} {p : Nat} (hp : c.peers.get a = some p) :
    Ticks c { closing c p with peers := (closing c p).peers.delete a } := by
  have hcleared : Ticks c (clearPendingAcks (clearHeartbeat c p) p) :=
    (ticks_bookkept.of_clearHeartbeat c p).trans (clearPendingAcks_ticks _ p)
  have hpeers := clearPendingAcks_peers c p
  have hremoved := hcleared.tail (.remove _ a p (by rw [hpeers, hp]))
  have hrejected := hremoved.trans (ticks_bookkept.of_foldl (fun c => ticks_bookkept.of_rejectItem c p)
    ((clearPendingAcks (clearHeartbeat c p) p).records p).outboundQueue _)
  rw [rejectItems_with_peers, hpeers] at hrejected
  rw [closing_peers]
  exact hrejected.trans (unlisten_ticks _ p)

theorem closePeer_ticks {a : String} {p : Nat} (hp : c.peers.get a = some p)
    (emitDisconnected : Bool) : Ticks c (closePeer c a p emitDisconnected) := by
  have hlink := (removed_ticks c hp).tail
    (.link _ ((closing c p).records p).link fun l => { l with isOpen := false })
  have hrecord := hlink.tail (.record _ p (fun r => { r with connected := false })
    ⟨rfl, rfl, rfl, rfl, rfl, rfl⟩)
  have hcounted := hrecord.trans (count_ticks _ a (k := .disconnectCount) (by decide))
  have hclosed : Ticks c (closePeer c a p false) := hcounted.tail (.emit _ (.closed a p) trivial)
  cases emitDisconnected with
  | false => exact hclosed
  | true => exact hclosed.tail (.emit _ (.disconnected a p) trivial)

theorem ticks_closes : Closing Ticks := ⟨ticks_bookkept, fun c _ _ hp => closePeer_ticks c hp⟩

theorem claimResumed_ticks (j : Nat) (a : String) (p : Nat) (frame : RuntimeTransportFrame)
    (outcome : ClaimOutcome) : (∀ source evicted, outcome ≠ .accepted source evicted) ∧
        Ticks c (claimResumed c j a p frame outcome) ∨
      (∃ source evicted, outcome = .accepted source evicted) ∧ ∃ c₁, Ticks c c₁ ∧
        Ticks (recordFrameReceived c₁ a p frame) (claimResumed c j a p frame outcome) := by
  cases outcome with
  | error =>
    exact .inl ⟨by simp, (count_ticks c a (by decide)).trans (ticks_closes.of_dropAndDisconnect _ a _)⟩
  | duplicate source evicted =>
    have hdropped := (ticks_bookkept.of_recordIdempotencyCacheEvictions c a evicted).trans
      (ticks_bookkept.of_recordDuplicateFrameDropped _ a source)
    exact .inl ⟨by simp, (hdropped.tail (.emit _ (.duplicateDropped j p frame) trivial)).trans
      (ticks_bookkept.of_sendControl _ a p)⟩
  | accepted source evicted =>
    have hevicted := ticks_bookkept.of_recordIdempotencyCacheEvictions c a evicted
    set d := if source = .provider
      then count (recordIdempotencyCacheEvictions c a evicted) a .idempotencyProviderClaimCount
      else recordIdempotencyCacheEvictions c a evicted with hd
    have hcounted : Ticks c d := by
      rw [hd]
      split
      · exact hevicted.trans (count_ticks _ a (by decide))
      · exact hevicted
    have hreceived : Ticks (recordFrameReceived d a p frame)
        ((recordFrameReceived d a p frame).emit (.received j p frame)) :=
      .single (.emit _ (.received j p frame) trivial)
    refine .inr ⟨⟨source, evicted, rfl⟩, d, hcounted, ?_⟩
    exact (hreceived.trans (ticks_bookkept.of_sendControl _ a p)).tail (.emit _
      (.emitted j p frame) trivial)

end Bookkeeping

def popped (c : Core) (a : String) (p : Nat) (item : OutboundQueueItem)
    (rest : List OutboundQueueItem) : Core :=
  ((c.modifyRecord p fun r => { r with outboundQueue := rest }).addJob (.drainSend a p item)).emit
    (.linkSend p item.frame)

def pushed (c : Core) (p : Nat) (item : OutboundQueueItem) : Core :=
  c.modifyRecord p fun r => { r with outboundQueue := r.outboundQueue ++ [item] }

def numbered (c : Core) (p : Nat) (frame : RuntimeTransportFrame) : Core :=
  (c.modifyRecord p fun r => { r with sequence := r.sequence + 1 }).emit (.numbered p frame)

def watched (c : Core) (a : String) (p : Nat) (frame : RuntimeTransportFrame) : Core :=
  armAckRetry
    ({ c with
        pendings := Function.update c.pendings c.nextPending { frame := frame, lastSentAtMs := c.now }
        nextPending := c.nextPending + 1 }.modifyRecord p fun r =>
      { r with pendingAcks := r.pendingAcks.set frame.messageId c.nextPending })
    a p c.nextPending

/-- What a core does beside sending, retrying and continuing after a claim. -/
inductive Round (frames : List RuntimeTransportFrame) : Core → Core → Prop
  | tick {c c' : Core} (h : Tick c c') : Round frames c c'
  | register (c : Core) (link : Nat) (identity : RuntimeNodeIdentity) :
      Round frames c (addPeer c link identity)
  | arrive {c : Core} (a : String) (p : Nat) (frame : RuntimeTransportFrame)
      (hp : c.peers.get a = some p) (hframe : frame ∈ frames) : Round frames c (claim c a p frame)
  | ack (c : Core) (a : String) (p : Nat) (messageId : String) :
      Round frames c (clearPendingAck c a p messageId)
  | pop {c : Core} (a : String) (p : Nat) (item : OutboundQueueItem) (rest : List OutboundQueueItem)
      (hqueue : (c.records p).outboundQueue = item :: rest) : Round frames c (popped c a p item rest)

abbrev Rounds (frames : List RuntimeTransportFrame) : Core → Core → Prop :=
  Relation.ReflTransGen (Round frames)

theorem registry_round {frames : List RuntimeTransportFrame} {c c' : Core} (r : Registry c)
    (h : Round frames c c') : Registry c' := by
  cases h with
  | tick h => exact r.of_kept (kept_of_tick h)
  | register link identity => exact r.register link identity
  | arrive a p frame hp hframe => exact r.of_kept (claim_kept c a p frame)
  | ack a p messageId => exact r.of_kept (clearPendingAck_quiet c a p messageId).toKept
  | pop a p item rest hqueue =>
    have hrecord : Kept c (c.modifyRecord p fun r => { r with outboundQueue := rest }) :=
      modifyRecord_kept c p rfl rfl
    exact r.of_kept { hrecord with }

section Turns

variable {frames : List RuntimeTransportFrame} {c c' : Core}

theorem Rounds.of_ticks (h : Ticks c c') : Rounds frames c c' := by
  induction h with
  | refl => exact .refl
  | tail _ hlast ih => exact ih.tail (.tick hlast)

theorem drainOutboundQueue_rounds (c : Core) (a : String) (p : Nat) :
    Rounds frames c (drainOutboundQueue c a p) := by
  unfold drainOutboundQueue
  split
  · exact .of_ticks (ticks_bookkept.of_leaveDrain c p)
  · rename_i item rest hqueue
    split
    · have hpop : Rounds frames c (popped c a p item rest) := .single (.pop a p item rest hqueue)
      exact hpop.tail (.tick (.stats _ _ rfl))
    · exact .of_ticks (ticks_bookkept.of_leaveDrain c p)

theorem flushOutboundQueue_rounds (c : Core) (a : String) (p : Nat) :
    Rounds frames c (flushOutboundQueue c a p) := by
  unfold flushOutboundQueue
  split
  · exact .refl
  · exact (Rounds.of_ticks (record_ticks c p _ ⟨rfl, rfl, rfl, rfl, rfl, rfl⟩)).trans
      (drainOutboundQueue_rounds _ a p)

theorem flushPeer_rounds (c : Core) (a : String) : Rounds frames c (flushPeer c a) := by
  unfold flushPeer
  split
  · exact .refl
  · exact flushOutboundQueue_rounds c a _

theorem enqueueFrame_rounds (frames : List RuntimeTransportFrame) (c : Core) (a : String) (p : Nat)
    (item : OutboundQueueItem) :
    (resolveBackpressure (c.records p).outboundQueue.length c.config.outboundQueueLimit = .drop ∧
      Ticks c (enqueueFrame c a p item)) ∨
    (resolveBackpressure (c.records p).outboundQueue.length c.config.outboundQueueLimit = .enqueue ∧
      Rounds frames (pushed c p item) (enqueueFrame c a p item)) := by
  unfold enqueueFrame
  split
  · rename_i hdrop
    refine .inl ⟨hdrop, ?_⟩
    exact ((count_ticks c a (by decide)).trans (count_ticks _ a (by decide))).trans
      (ticks_bookkept.of_rejectItem _ p item)
  · rename_i henqueue
    refine .inr ⟨henqueue, ?_⟩
    exact (Rounds.of_ticks (updateOutboundQueueDepth_ticks _ a)).trans
      (flushOutboundQueue_rounds _ a p)

theorem rounds_receiving : Receiving frames (Rounds frames) where
  toClosing := ticks_closes.lift (fun _ _ => .of_ticks) .trans
  newLink c l := .single (.tick (.newLink c l))
  register c link identity := .single (.register c link identity)
  connected c a := .of_ticks (recordPeerConnected_ticks c a)
  announced c a p := .single (.tick (.emit c (.connected a p) trivial))
  arrive _ _ _ _ hp _ hframe := .single (.arrive _ _ _ hp hframe)
  ack c a p messageId _ :=
    .tail (.single (.tick (.emit c (.acked p messageId) trivial))) (.ack _ a p messageId)
  dropJob c job h := .single (.tick (.dropJob c job h))
  clock c now := .single (.tick (.clock c now))

theorem step_rounds {a : Action} (ha : IsRoutine a) (h : step c a = some c') :
    Rounds (arriving a) c c' := by
  obtain hrounds | ⟨address, -, rfl⟩ := rounds_receiving.step ha h
  · exact hrounds
  · exact flushPeer_rounds c address

theorem send_turn (frames : List RuntimeTransportFrame) {destination : String} {message : ActorMessage}
    (h : step c (.send destination message) = some c') :
    (nextFrame c destination message = none ∧ Rounds frames c c') ∨
      ∃ p frame, nextFrame c destination message = some (p, frame) ∧
        ((resolveBackpressure (c.records p).outboundQueue.length c.config.outboundQueueLimit = .drop ∧
            Rounds frames (numbered c p frame) c') ∨
          (resolveBackpressure (c.records p).outboundQueue.length c.config.outboundQueueLimit =
              .enqueue ∧
            Rounds frames (pushed (numbered c p frame) p ⟨frame, true, none⟩) c')) := by
  obtain rfl : send c destination message = c' := Option.some.inj h
  unfold send nextFrame
  cases c.peers.get destination with
  | none => exact .inl ⟨rfl, .refl⟩
  | some p =>
    simp only
    split
    · refine .inl ⟨rfl, .of_ticks ?_⟩
      exact (count_ticks c _ (by decide)).trans (count_ticks _ _ (by decide))
    · refine .inr ⟨p, _, rfl, ?_⟩
      have hqueue : ∀ frame, ((numbered c p frame).records p).outboundQueue =
          (c.records p).outboundQueue := fun frame => by
        simp only [numbered, Core.emit, Core.modifyRecord_records_self]
      obtain ⟨hverdict, hticks⟩ | ⟨hverdict, hrounds⟩ := enqueueFrame_rounds frames
        (numbered c p _) destination p ⟨_, true, none⟩
      · rw [hqueue] at hverdict
        exact .inl ⟨hverdict, .of_ticks hticks⟩
      · rw [hqueue] at hverdict
        exact .inr ⟨hverdict, hrounds⟩

theorem sendSettled_turn (frames : List RuntimeTransportFrame) {job : Nat} {ok : Bool} (h : step c
    (.sendSettled job ok) = some c') :
    Rounds frames c c' ∨ ∃ a p item, c.jobs job = some (.drainSend a p item) ∧
      tracks c item = true ∧ Rounds frames (watched (c.setJob job none) a p item.frame) c' := by
  simp only [step] at h
  have hdropped : (∀ a p f, c.jobs job ≠ some (.claiming a p f)) →
      Rounds frames c (c.setJob job none) := fun hfree => .single (.tick (.dropJob c job hfree))
  split at h
  · rename_i a p item hjob
    replace hdropped := hdropped (by simp [hjob])
    cases h
    unfold drainSettled
    split
    · have hsent : Rounds frames c (recordFrameSent (c.setJob job none) a) :=
        hdropped.trans (Rounds.of_ticks (count_ticks _ a (by decide)))
      split
      · rename_i htrack
        unfold trackAckIfRetryable
        split
        · exact .inl (hsent.trans (drainOutboundQueue_rounds _ a p))
        · rename_i hretryable
          split
          · exact .inl (hsent.trans (drainOutboundQueue_rounds _ a p))
          · rename_i hgiveUp
            have htracks : tracks c item = true := by
              have hverdict : resolveAckRetry 0 c.now c.now c.config.ackTimeoutMs
                  c.config.maxAckRetries ≠ .giveUp := hgiveUp
              simp only [Bool.not_eq_true', Bool.not_eq_false] at hretryable
              simpa only [tracks, htrack, hretryable, Bool.and_self, Bool.true_and,
                decide_eq_true_eq] using hverdict
            refine .inr ⟨a, p, item, hjob, htracks, ?_⟩
            have hcounted : Rounds frames (watched (c.setJob job none) a p item.frame)
                { watched (c.setJob job none) a p item.frame with
                  stats := (recordFrameSent (c.setJob job none) a).stats } :=
              .single (.tick (.stats _ _ (count_total (c.setJob job none) a (by decide))))
            exact hcounted.trans (drainOutboundQueue_rounds _ a p)
      · exact .inl (hsent.trans (drainOutboundQueue_rounds _ a p))
    · refine .inl (hdropped.trans (Rounds.of_ticks ?_))
      exact ((ticks_bookkept.of_rejectItem _ p item).trans (ticks_closes.of_disconnect _ a)).trans
        (ticks_bookkept.of_leaveDrain _ p)
  · rename_i a p hjob
    replace hdropped := hdropped (by simp [hjob])
    cases h
    left
    split
    · exact hdropped
    · exact hdropped.trans (Rounds.of_ticks (ticks_closes.of_disconnect _ a))
  · cases h

def retried (c : Core) (a : String) (p i : Nat) : Core :=
  armAckRetry
    ((c.modifyPending i fun pending =>
        { pending with attempts := pending.attempts + 1, lastSentAtMs := c.now }).emit
      (.retryScheduled p (c.pendings i).frame.messageId)) a p i

def gaveUp (c : Core) (p i : Nat) : Core :=
  (c.modifyRecord p fun r =>
    { r with pendingAcks := r.pendingAcks.delete (c.pendings i).frame.messageId }).emit
      (.retryExhausted p (c.pendings i).frame.messageId)

theorem timer_turn (frames : List RuntimeTransportFrame) {t : Nat} (h : step c (.timer t) = some c') :
    Rounds frames c c' ∨ ∃ a p i, c.timers t = some (.ackRetry a p i) ∧
      ((c.setTimer t none).records p).pendingAcks.has (c.pendings i).frame.messageId = true ∧
      (Rounds frames (gaveUp (c.setTimer t none) p i) c' ∨
        Rounds frames (armAckRetry (c.setTimer t none) a p i) c' ∨
        ((c.pendings i).attempts < c.config.maxAckRetries ∧
          (Rounds frames (retried (c.setTimer t none) a p i) c' ∨
            Rounds frames
              (pushed (retried (c.setTimer t none) a p i) p ⟨(c.pendings i).frame, false, some a⟩)
              c'))) := by
  simp only [step, Option.map_eq_some_iff] at h
  obtain ⟨task, htask, rfl⟩ := h
  have hcleared : Ticks c (c.setTimer t none) := .single (.dropTimer c t)
  cases task with
  | heartbeatInterval a p => exact .inl (Rounds.of_ticks (ticks_bookkept.of_heartbeatIntervalFires c a p))
  | heartbeatTimeout a p =>
    exact .inl (Rounds.of_ticks (hcleared.trans (ticks_closes.of_heartbeatTimeoutFires _ a p)))
  | ackRetry a p i =>
    simp only [fireTimer, ackRetryFires]
    split
    · exact .inl (Rounds.of_ticks hcleared)
    · rename_i hlive
      simp only [Bool.or_eq_true, not_or, Bool.not_eq_true', Bool.not_eq_false] at hlive
      refine .inr ⟨a, p, i, htask, hlive.2, ?_⟩
      split
      · left
        exact .single (.tick (.stats _ _ (count_total (c.setTimer t none) a (by decide))))
      · exact .inr (.inl .refl)
      · rename_i hretry
        have hattempts : (c.pendings i).attempts < c.config.maxAckRetries := by
          simp only [resolveAckRetry] at hretry
          split at hretry
          · cases hretry
          · split at hretry
            · cases hretry
            · split at hretry
              · cases hretry
              · rename_i hle
                exact Int.not_le.mp hle
        refine .inr (.inr ⟨hattempts, ?_⟩)
        have hcounted : Ticks (retried (c.setTimer t none) a p i)
            { retried (c.setTimer t none) a p i with
              stats := (count (c.setTimer t none) a .framesRetried).stats } :=
          .single (.stats _ _ (count_total (c.setTimer t none) a (by decide)))
        obtain ⟨-, hticks⟩ | ⟨-, hrounds⟩ := enqueueFrame_rounds frames
          { retried (c.setTimer t none) a p i with
            stats := (count (c.setTimer t none) a .framesRetried).stats } a p
          ⟨(c.pendings i).frame, false, some a⟩
        · exact .inl (Rounds.of_ticks (hcounted.trans hticks))
        · right
          have hpushed : Ticks
              (pushed (retried (c.setTimer t none) a p i) p ⟨(c.pendings i).frame, false, some a⟩)
              { pushed (retried (c.setTimer t none) a p i) p
                  ⟨(c.pendings i).frame, false, some a⟩ with
                stats := (count (c.setTimer t none) a .framesRetried).stats } :=
            .single (.stats _ _ (count_total (c.setTimer t none) a (by decide)))
          exact (Rounds.of_ticks hpushed).trans hrounds

end Turns

end ActorWeb.TransportTicks
