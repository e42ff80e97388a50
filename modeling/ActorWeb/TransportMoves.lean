import ActorWeb.TransportOwnership

namespace ActorWeb.TransportMoves

open OrderedMap List TransportContract TransportCore TransportQuiet TransportOwnership TransportTicks
  TransportBookkeeping

def factFrame : LinkFact → Option RuntimeTransportFrame
  | .payload (.frame frame) => some frame
  | _ => none

def arriving : Action → List RuntimeTransportFrame
  | .dialSettled _ _ facts | .authSettled _ _ facts | .acceptInbound _ facts => facts.filterMap factFrame
  | .linkFact _ fact => [fact].filterMap factFrame
  | _ => []

/-- What a core does when it neither sends, retries nor continues after an await. -/
inductive Routine (frames : List RuntimeTransportFrame) : Core → Core → Prop
  | quiet {c c' : Core} (q : Quiet c c') : Routine frames c c'
  | register (c : Core) (link : Nat) (identity : RuntimeNodeIdentity) :
      Routine frames c (addPeer c link identity)
  | arrive {c : Core} (a : String) (p : Nat) (frame : RuntimeTransportFrame) (hp : c.peers.get a = some p)
      (hsource : sourceMatches c a p frame.source) (hframe : frame ∈ frames) :
      Routine frames c (claim c a p frame)
  | ack {c : Core} (a : String) (p : Nat) (messageId : String) (hp : c.peers.get a = some p) :
      Routine frames c (clearPendingAck (c.emit (.acked p messageId)) a p messageId)

abbrev Routines (frames : List RuntimeTransportFrame) : Core → Core → Prop :=
  Relation.ReflTransGen (Routine frames)

variable {frames : List RuntimeTransportFrame} {c c' c'' : Core}

theorem Routines.of_quiet (q : Quiet c c') : Routines frames c c' := .single (.quiet q)

theorem markPeerSeen_peers (c : Core) (a : String) (l : Nat) : (markPeerSeen c a l).peers = c.peers := by
  unfold markPeerSeen
  split
  · rfl
  · split
    · exact clearTimer_peers _ _
    · rfl

theorem sourceMatches_of_quiet (q : Quiet c c') (a : String) (p : Nat) (source : RuntimeNodeIdentity) :
    sourceMatches c' a p source = sourceMatches c a p source := by
  unfold sourceMatches
  rw [q.identity]

/-- The moves of a core that takes in `frames`, for a relation that they keep. -/
structure Receiving (frames : List RuntimeTransportFrame) (R : Core → Core → Prop) : Prop
    extends Closing R where
  newLink : ∀ c l, R c (addLink c l)
  register : ∀ c link identity, R c (addPeer c link identity)
  connected : ∀ c a, R c (recordPeerConnected c a)
  announced : ∀ c a p, R c (c.emit (.connected a p))
  arrive : ∀ c {a p} {frame : RuntimeTransportFrame}, c.peers.get a = some p →
    sourceMatches c a p frame.source → frame ∈ frames → R c (claim c a p frame)
  ack : ∀ c {a p} messageId, c.peers.get a = some p →
    R c (clearPendingAck (c.emit (.acked p messageId)) a p messageId)
  dropJob : ∀ c job, (∀ a p f, c.jobs job ≠ some (.claiming a p f)) → R c (c.setJob job none)
  clock : ∀ c now, R c { c with now := now }

def IsRoutine : Action → Prop
  | .send _ _ | .sendSettled _ _ | .providerAnswers _ _ | .microtask | .timer _ => False
  | _ => True

section Receiving

variable {R : Core → Core → Prop}

theorem closePeers_of_closing (b : Closing R) (es : List (String × Nat)) (hkeys : (es.map Prod.fst).Nodup)
    (c : Core) (hes : ∀ e ∈ es, c.peers.get e.1 = some e.2) :
    R c (es.foldl (fun c e => closePeer c e.1 e.2 false) c) := by
  induction es generalizing c with
  | nil => exact b.refl c
  | cons e es ih =>
    obtain ⟨hfresh, hkeys⟩ := nodup_cons.mp hkeys
    refine b.trans (b.closePeer c (hes e mem_cons_self) false) (ih hkeys _ fun e' he' => ?_)
    have hne : e'.1 ≠ e.1 := by
      intro h
      exact hfresh (h ▸ mem_map_of_mem he')
    rw [closePeer_peers, get_delete_ne _ hne, hes e' (mem_cons_of_mem _ he')]

theorem stop_of_closing (b : Closing R) (c : Core) : R c (stop c) :=
  closePeers_of_closing b c.peers.entries c.peers.nodup c fun _ he => get_eq_some_iff.mpr he

variable (b : Receiving frames R) (c : Core)

include b

theorem Receiving.handleAckFrame {a : String} {p : Nat} (hp : c.peers.get a = some p)
    (source destination : RuntimeNodeIdentity) (messageId : String) :
    R c (handleAckFrame c a p source destination messageId) := by
  unfold TransportCore.handleAckFrame
  split
  · exact b.of_dropAndDisconnect c a _
  · exact b.trans (b.of_markPeerSeen c a _) (b.ack _ messageId (by rw [markPeerSeen_peers, hp]))

theorem Receiving.handleInboundPayload (a : String) (link : Nat) (payload : Payload)
    (hframes : ∀ f, factFrame (.payload payload) = some f → f ∈ frames) :
    R c (handleInboundPayload c a link payload) := by
  unfold TransportCore.handleInboundPayload
  split
  case h_1 => exact b.refl c
  case h_2 p hp =>
    split
    case isTrue => exact b.refl c
    case isFalse =>
      cases payload with
      | invalid code => exact b.of_dropAndDisconnect c a code
      | heartbeat ping source destination => exact b.of_handleHeartbeatFrame c a p ping source destination
      | ack source destination messageId sequence => exact b.handleAckFrame c hp source destination messageId
      | frame frame =>
        simp only
        split
        case isTrue => exact b.of_dropAndDisconnect c a _
        case isFalse hvalid =>
          have hsource : sourceMatches c a p frame.source = true := by
            simp only [Bool.or_eq_true, not_or, Bool.not_eq_true', Bool.not_eq_false] at hvalid
            exact hvalid.2
          refine b.trans (b.of_markPeerSeen c a link) (b.arrive _ ?_ ?_ (hframes frame rfl))
          · rw [markPeerSeen_peers, hp]
          · rw [sourceMatches_of_quiet (quiet_bookkept.of_markPeerSeen c a link), hsource]

theorem Receiving.handleFact (a : String) (link : Nat) (fact : LinkFact)
    (hframes : ∀ f, factFrame fact = some f → f ∈ frames) : R c (handleFact a link c fact) := by
  cases fact with
  | payload payload => exact b.handleInboundPayload c a link payload hframes
  | closed => exact b.of_handlePeerClosed c a link

theorem Receiving.handleFacts (a : String) (link : Nat) (facts : List LinkFact)
    (hframes : ∀ f ∈ facts.filterMap factFrame, f ∈ frames) :
    R c (facts.foldl (TransportCore.handleFact a link) c) := by
  induction facts generalizing c with
  | nil => exact b.refl c
  | cons fact facts ih =>
    refine b.trans (b.handleFact c a link fact fun f hf => ?_) (ih _ fun f hf => ?_)
    · exact hframes f (mem_filterMap.mpr ⟨fact, mem_cons_self, hf⟩)
    · obtain ⟨fact', hfact', hf⟩ := mem_filterMap.mp hf
      exact hframes f (mem_filterMap.mpr ⟨fact', mem_cons_of_mem _ hfact', hf⟩)

theorem Receiving.listenReceive (a : String) (link p : Nat) (facts : List LinkFact)
    (hframes : ∀ f ∈ facts.filterMap factFrame, f ∈ frames) : R c (listenReceive c a link p facts) :=
  b.trans (b.trans (b.link c link _) (b.handleFacts _ a link facts hframes))
    (b.of_steady _ p ⟨rfl, rfl, rfl, rfl, rfl, rfl⟩)

theorem Receiving.registerPeer (link : Nat) (identity : RuntimeNodeIdentity) (facts : List LinkFact)
    (hframes : ∀ f ∈ facts.filterMap factFrame, f ∈ frames) :
    R c (registerPeer c link identity facts) := by
  have hadded := b.trans (b.of_replacePeer c link identity) (b.register _ link identity)
  have hregistered := b.trans hadded (b.connected _ identity.nodeAddress)
  have hheard := b.trans hregistered (b.listenReceive _ identity.nodeAddress link
    (replacePeer c link identity).nextRecord facts hframes)
  have halive := b.trans hheard (b.of_listenAlive _ identity.nodeAddress link
    (replacePeer c link identity).nextRecord)
  have hstarted := b.trans halive (b.of_startHeartbeat _ identity.nodeAddress
    (replacePeer c link identity).nextRecord)
  exact b.trans hstarted (b.announced _ identity.nodeAddress _)

theorem Receiving.acceptInboundLink (l : PeerLink) (facts : List LinkFact)
    (hframes : ∀ f ∈ facts.filterMap factFrame, f ∈ frames) : R c (acceptInboundLink c l facts) := by
  have hlink := b.newLink c l
  unfold TransportCore.acceptInboundLink
  split
  · exact b.trans hlink (b.of_closeLink _ _)
  · split
    · exact b.trans hlink (b.registerPeer _ _ _ facts hframes)
    · exact b.trans (b.trans hlink (b.of_closeLink _ _)) (b.of_recordInboundHandshakeRejection _ _ _)

theorem Receiving.connectPeer (address : String) (link : Nat) (identity : RuntimeNodeIdentity)
    (facts : List LinkFact) (hframes : ∀ f ∈ facts.filterMap factFrame, f ∈ frames) :
    R c (connectPeer c address link identity facts) := by
  unfold TransportCore.connectPeer
  split
  · exact b.registerPeer c link identity facts hframes
  · exact b.trans (b.of_closeLink c link) (b.counted _ address _ (by decide) (by decide))

theorem Receiving.dialSettled (address : String) (result : Option PeerLink) (facts : List LinkFact)
    (hframes : ∀ f ∈ facts.filterMap factFrame, f ∈ frames) : R c
      (dialSettled c address result facts) := by
  unfold TransportCore.dialSettled
  split
  · exact b.counted c address _ (by decide) (by decide)
  case h_2 l =>
    split
    · exact b.trans (b.newLink c l) (b.connectPeer _ address _ _ facts hframes)
    · exact b.trans (b.newLink c l) (b.addJob _ _ trivial)

theorem Receiving.authSettled (address : String) (link : Nat) (identity : RuntimeNodeIdentity) (ok : Bool)
    (facts : List LinkFact) (hframes : ∀ f ∈ facts.filterMap factFrame, f ∈ frames) :
    R c (authSettled c address link identity ok facts) := by
  unfold TransportCore.authSettled
  split
  · exact b.connectPeer c address link identity facts hframes
  · exact b.trans (b.of_closeLink c link) (b.touched _ address)

end Receiving

theorem Receiving.step {R : Core → Core → Prop} {a : Action} (b : Receiving (arriving a) R)
    (ha : IsRoutine a) (h : step c a = some c') :
    R c c' ∨ ∃ address, a = .flushPeer address ∧ c' = flushPeer c address := by
  cases a with
  | flushPeer address => exact .inr ⟨address, rfl, (Option.some.inj h).symm⟩
  | send | sendSettled | providerAnswers | microtask | timer => exact ha.elim
  | connect address =>
    cases h
    exact .inl (b.of_connect c address)
  | dialSettled job result facts =>
    simp only [TransportCore.step] at h
    split at h
    case h_1 address hjob =>
      cases h
      exact .inl (b.trans (b.dropJob c job (by simp [hjob]))
        (b.dialSettled _ address result facts fun _ => id))
    case h_2 => cases h
  | authSettled job ok facts =>
    simp only [TransportCore.step] at h
    split at h
    case h_1 address link identity hjob =>
      cases h
      exact .inl (b.trans (b.dropJob c job (by simp [hjob]))
        (b.authSettled _ address link identity ok facts fun _ => id))
    case h_2 => cases h
  | acceptInbound link facts =>
    cases h
    exact .inl (b.acceptInboundLink c link facts fun _ => id)
  | rejectInbound nodeAddress auth =>
    cases h
    exact .inl (b.of_recordInboundHandshakeRejection c nodeAddress auth)
  | disconnect address =>
    cases h
    exact .inl (b.of_disconnect c address)
  | linkFact link fact =>
    simp only [TransportCore.step] at h
    split at h
    case h_1 nodeAddress hsink =>
      cases h
      refine .inl (b.handleFact c nodeAddress link fact fun f hf => ?_)
      exact mem_filterMap.mpr ⟨fact, mem_singleton_self fact, hf⟩
    case h_2 => cases h
  | linkAlive link =>
    simp only [TransportCore.step] at h
    split at h
    case h_1 nodeAddress halive =>
      cases h
      exact .inl (b.of_markPeerSeen c nodeAddress link)
    case h_2 => cases h
  | linkOpens link isOpen =>
    cases h
    exact .inl (b.link c link _)
  | clock now =>
    cases h
    exact .inl (b.clock c now)
  | stop =>
    cases h
    exact .inl (stop_of_closing b.toClosing c)

theorem routines_receiving : Receiving frames (Routines frames) where
  toClosing := quiet_closes.lift (fun _ _ => .of_quiet) .trans
  newLink c l := .of_quiet (addLink_quiet c l)
  register c link identity := .single (.register c link identity)
  connected c a := .of_quiet (recordPeerConnected_quiet c a)
  announced c a p := .of_quiet (emit_quiet c (e := .connected a p) trivial (by simp))
  arrive _ _ _ _ hp hsource hframe := .single (.arrive _ _ _ hp hsource hframe)
  ack _ _ _ messageId hp := .single (.ack _ _ messageId hp)
  dropJob c job _ := .of_quiet (dropJob_quiet c job)
  clock c now := .of_quiet { Quiet.refl c with }

theorem step_routines {a : Action} (ha : IsRoutine a) (h : step c a = some c') :
    Routines (arriving a) c c' := by
  obtain hroutines | ⟨address, -, rfl⟩ := routines_receiving.step ha h
  · exact hroutines
  · exact .of_quiet (flushPeer_quiet c address)

def nextFrame (c : Core) (destination : String) (message : ActorMessage) :
    Option (Nat × RuntimeTransportFrame) :=
  match c.peers.get destination with
  | none => none
  | some p =>
    let frame := createRuntimeTransportFrame c.config.identity (c.records p).identity
      ((c.records p).sequence + 1) message
    if c.config.maxFrameBytes < c.config.measureFrameBytes frame then none else some (p, frame)

theorem nextFrame_eq_some {destination : String} {message : ActorMessage} {p : Nat}
    {frame : RuntimeTransportFrame} (h : nextFrame c destination message = some (p, frame)) :
    c.peers.get destination = some p ∧ frame = createRuntimeTransportFrame c.config.identity
      (c.records p).identity ((c.records p).sequence + 1) message := by
  unfold nextFrame at h
  split at h
  case h_1 => cases h
  case h_2 q hq =>
    simp only at h
    split at h
    case isTrue => cases h
    case isFalse =>
      cases h
      exact ⟨hq, rfl⟩

theorem send_cases {destination : String} {message : ActorMessage}
    (h : step c (.send destination message) = some c') :
    nextFrame c destination message = none ∧ Quiet c c' ∨
      ∃ p frame, nextFrame c destination message = some (p, frame) ∧
        Quiet ((c.modifyRecord p fun r => { r with sequence := r.sequence + 1 }).emit
          (.numbered p frame)) c' := by
  obtain rfl : send c destination message = c' := Option.some.inj h
  unfold send nextFrame
  cases c.peers.get destination with
  | none => exact .inl ⟨rfl, .refl c⟩
  | some p =>
    simp only
    split
    case isTrue => exact .inl ⟨rfl, (count_quiet c _ _).trans (count_quiet _ _ _)⟩
    case isFalse => exact .inr ⟨p, _, rfl, enqueueFrame_quiet _ _ _ _⟩

def tracks (c : Core) (item : OutboundQueueItem) : Bool :=
  item.trackAck && isRetryableRuntimeFrame item.frame &&
    resolveAckRetry 0 c.now c.now c.config.ackTimeoutMs c.config.maxAckRetries ≠ .giveUp

theorem sendSettled_cases {job : Nat} {ok : Bool} (h : step c (.sendSettled job ok) = some c') :
    Quiet c c' ∨ ∃ a p item i c₁, c.jobs job = some
      (.drainSend a p item) ∧ ok = true ∧ tracks c item = true ∧
      Quiet c c₁ ∧
      Quiet (c₁.modifyRecord p fun r => { r with pendingAcks := r.pendingAcks.set item.frame.messageId i })
        c' := by
  simp only [step] at h
  have hdropped := dropJob_quiet c job
  split at h
  case h_1 a p item hjob =>
    cases h
    unfold drainSettled
    split
    case isFalse =>
      exact .inl (((hdropped.trans (quiet_bookkept.of_rejectItem _ p item)).trans
        (quiet_closes.of_disconnect _ a)).trans
        (quiet_bookkept.of_leaveDrain _ p))
    case isTrue hok =>
      have hsent : Quiet c (recordFrameSent (c.setJob job none) a) := hdropped.trans (count_quiet _ a _)
      split
      case isFalse => exact .inl (hsent.trans (drainOutboundQueue_quiet _ a p))
      case isTrue htrack =>
        unfold trackAckIfRetryable
        split
        case isTrue => exact .inl (hsent.trans (drainOutboundQueue_quiet _ a p))
        case isFalse hretryable =>
          split
          case isTrue => exact .inl (hsent.trans (drainOutboundQueue_quiet _ a p))
          case isFalse hgiveUp =>
            have htracks : tracks c item = true := by
              have hverdict : resolveAckRetry 0 c.now c.now c.config.ackTimeoutMs c.config.maxAckRetries ≠
                  .giveUp := hgiveUp
              simp only [Bool.not_eq_true', Bool.not_eq_false] at hretryable
              simpa only [tracks, htrack, hretryable, Bool.and_self, Bool.true_and,
                decide_eq_true_eq] using hverdict
            have hpending : Quiet c { recordFrameSent (c.setJob job none) a with
                pendings := Function.update c.pendings c.nextPending { frame := item.frame, lastSentAtMs := c.now }
                nextPending := c.nextPending + 1 } := hsent.trans { Quiet.refl _ with }
            exact .inr ⟨a, p, item, _, _, hjob, hok, htracks, hpending,
              (armAckRetry_quiet _ a p _).trans (drainOutboundQueue_quiet _ a p)⟩
  case h_2 a p hjob =>
    cases h
    left
    split
    · exact hdropped
    · exact hdropped.trans (quiet_closes.of_disconnect _ a)
  case h_3 => cases h

theorem providerAnswers_cases {job : Nat} {answer : ClaimAnswer}
    (h : step c (.providerAnswers job answer) = some c') :
    ∃ a p frame, c.jobs job = some (.claiming a p frame) ∧
      c' = claimAnswered (c.setJob job none) job a p frame answer := by
  simp only [step] at h
  split at h
  case h_1 a p frame hjob => exact ⟨a, p, frame, hjob, (Option.some.inj h).symm⟩
  case h_2 => cases h

theorem microtask_cases (h : step c .microtask = some c') : ∃ m rest, c.microtasks = m :: rest ∧
      ((∃ a p, m = .retryRejected a p ∧ Quiet { c with microtasks := rest } c') ∨
      ∃ j a p frame outcome, m = .claimed j a p frame outcome ∧
        c' = claimResumed { c with microtasks := rest } j a p frame outcome) := by
  simp only [step] at h
  split at h
  case h_1 m rest hm =>
    cases h
    refine ⟨m, rest, hm, ?_⟩
    cases m with
    | claimed j a p frame outcome => exact .inr ⟨j, a, p, frame, outcome, rfl, rfl⟩
    | retryRejected a p => exact .inl ⟨a, p, rfl, quiet_closes.of_disconnect _ a⟩
  case h_2 => cases h

theorem claimResumed_duplicate (c : Core) (j : Nat) (a : String) (p : Nat) (frame : RuntimeTransportFrame)
    (source : ClaimSource) (evicted : List String) :
    ∃ c₁, Quiet c c₁ ∧ Quiet (c₁.emit (.duplicateDropped j p frame))
      (claimResumed c j a p frame (.duplicate source evicted)) :=
  ⟨_, (quiet_bookkept.of_recordIdempotencyCacheEvictions c a evicted).trans
    (quiet_bookkept.of_recordDuplicateFrameDropped _ a source),
    quiet_bookkept.of_sendControl _ a p⟩

theorem recordIdempotencyCacheEvictions_peers (c : Core) (a : String) (evicted : List String) :
    (recordIdempotencyCacheEvictions c a evicted).peers = c.peers :=
  foldl_peers (f := fun c _ => count c a .idempotencyCacheEvictions) (fun _ _ => rfl) evicted c

theorem recordFrameReceived_peers (c : Core) (a : String) (p : Nat) (frame : RuntimeTransportFrame) :
    (recordFrameReceived c a p frame).peers = c.peers := by
  unfold recordFrameReceived
  split <;> rfl

theorem claimResumed_accepted (c : Core) (j : Nat) (a : String) (p : Nat) (frame : RuntimeTransportFrame)
    (source : ClaimSource) (evicted : List String) :
    ∃ c₁ c₂, Quiet c c₁ ∧ c₁.peers = c.peers ∧ Quiet (c₁.emit
      (.received j p frame)) c₂ ∧ c₂.peers = c.peers ∧
      claimResumed c j a p frame (.accepted source evicted) = c₂.emit (.emitted j p frame) := by
  have hevicted := quiet_bookkept.of_recordIdempotencyCacheEvictions c a evicted
  have hpeers := recordIdempotencyCacheEvictions_peers c a evicted
  cases source with
  | memory =>
    have hreceived := (recordFrameReceived_peers _ a p frame).trans hpeers
    exact ⟨_, _, hevicted.trans
      (recordFrameReceived_quiet _ a p frame), hreceived, quiet_bookkept.of_sendControl _ a p,
      hreceived, rfl⟩
  | provider =>
    have hreceived := (recordFrameReceived_peers
      (count (recordIdempotencyCacheEvictions c a evicted) a .idempotencyProviderClaimCount) a p frame).trans hpeers
    exact ⟨_, _, (hevicted.trans (count_quiet _ a _)).trans
      (recordFrameReceived_quiet _ a p frame), hreceived,
      quiet_bookkept.of_sendControl _ a p, hreceived, rfl⟩

theorem claimResumed_error (c : Core) (j : Nat) (a : String) (p : Nat) (frame : RuntimeTransportFrame) :
    Quiet c (claimResumed c j a p frame .error) :=
  (count_quiet c a _).trans (quiet_closes.of_dropAndDisconnect _ a _)

theorem ackRetryFires_cases (c : Core) (a : String) (p i : Nat) :
    Quiet c (ackRetryFires c a p i) ∨ ∃ id c₁, Quiet c c₁ ∧ (c.records p).pendingAcks.has id = true ∧
      (Quiet (c₁.emit (.retryScheduled p id)) (ackRetryFires c a p i) ∨
        Quiet (c₁.emit (.retryExhausted p id)) (ackRetryFires c a p i)) := by
  unfold ackRetryFires
  simp only
  split
  case isTrue => exact .inl (.refl c)
  case isFalse hlive =>
    simp only [Bool.or_eq_true, not_or, Bool.not_eq_true', Bool.not_eq_false] at hlive
    split
    · refine .inr ⟨(c.pendings i).frame.messageId, _, ?_, hlive.2, .inr (.refl _)⟩
      refine (modifyRecord_quiet c p ⟨rfl, rfl, rfl⟩ fun id h => ?_).trans (count_quiet _ a _)
      rw [OrderedMap.get_delete, h, ite_self]
    · exact .inl (armAckRetry_quiet c a p i)
    · refine .inr ⟨(c.pendings i).frame.messageId, count (c.modifyPending i fun a =>
        { a with attempts := a.attempts + 1, lastSentAtMs := c.now }) a .framesRetried, ?_, hlive.2, .inl ?_⟩
      · exact (modifyPending_quiet c i _).trans (count_quiet _ a _)
      · exact (armAckRetry_quiet _ a p i).trans (enqueueFrame_quiet _ a p _)

theorem timer_cases {t : Nat} (h : step c (.timer t) = some c') :
    Quiet c c' ∨ ∃ p id c₁, Quiet c c₁ ∧ (c.records p).pendingAcks.has id = true ∧
      (Quiet (c₁.emit (.retryScheduled p id)) c' ∨ Quiet (c₁.emit (.retryExhausted p id)) c') := by
  simp only [step, Option.map_eq_some_iff] at h
  obtain ⟨task, htask, rfl⟩ := h
  have hcleared := setTimer_quiet c t none
  cases task with
  | heartbeatInterval a p => exact .inl (quiet_bookkept.of_heartbeatIntervalFires c a p)
  | heartbeatTimeout a p => exact .inl (hcleared.trans (quiet_closes.of_heartbeatTimeoutFires _ a p))
  | ackRetry a p i =>
    rcases ackRetryFires_cases (c.setTimer t none) a p i with hq | ⟨id, c₁, hq, hpending, hrest⟩
    · exact .inl (hcleared.trans hq)
    · exact .inr ⟨p, id, c₁, hcleared.trans hq, hpending, hrest⟩

section Kept

theorem modifyRecord_kept (c : Core) (p : Nat) {f : Peer → Peer}
    (hidentity : (f (c.records p)).identity = (c.records p).identity)
    (hacks : (f (c.records p)).pendingAcks = (c.records p).pendingAcks) :
    Kept c (c.modifyRecord p f) := by
  refine { Kept.refl c with identity := fun q => ?_, pendingAcks := fun q id h => ?_ }
  all_goals by_cases hq : q = p
  · rw [hq, Core.modifyRecord_records_self, hidentity]
  · rw [Core.modifyRecord_records_ne c f hq]
  · rw [hq, Core.modifyRecord_records_self, hacks, ← hq, h]
  · rw [Core.modifyRecord_records_ne c f hq, h]

theorem emit_kept (c : Core) (e : Event) : Kept c (c.emit e) := { Kept.refl c with }

theorem remember_kept (c : Core) (p : Nat) (messageId : String) : Kept c (c.modifyRecord p fun r =>
      { r with idempotencyCache := (r.idempotencyCache.remember messageId).1 }) :=
  modifyRecord_kept c p rfl rfl

theorem claim_kept (c : Core) (a : String) (p : Nat) (frame : RuntimeTransportFrame) :
    Kept c (claim c a p frame) := by
  unfold claim
  simp only
  split
  · exact { Kept.refl c with }
  · split
    · exact { remember_kept c p frame.messageId with }
    · exact { Kept.refl c with }

theorem claim_log (c : Core) (a : String) (p : Nat) (frame : RuntimeTransportFrame) :
    (claim c a p frame).log = c.log ++ [.arrived c.nextJob p frame] := by
  unfold claim
  simp only
  split
  · rfl
  · split <;> rfl

theorem claimAnswered_kept (c : Core) (j : Nat) (a : String) (p : Nat) (frame : RuntimeTransportFrame)
    (answer : ClaimAnswer) : Kept c (claimAnswered c j a p frame answer) := by
  cases answer with
  | claimed | duplicate => exact { remember_kept c p frame.messageId with }
  | error => exact { Kept.refl c with }

theorem claimResumed_kept (c : Core) (j : Nat) (a : String) (p : Nat) (frame : RuntimeTransportFrame)
    (outcome : ClaimOutcome) : Kept c (claimResumed c j a p frame outcome) := by
  cases outcome with
  | accepted source evicted =>
    obtain ⟨c₁, c₂, h₁, -, h₂, -, h⟩ := claimResumed_accepted c j a p frame source evicted
    rw [h]
    exact ((h₁.toKept.trans (emit_kept c₁ _)).trans h₂.toKept).trans (emit_kept c₂ _)
  | duplicate source evicted =>
    obtain ⟨c₁, h₁, h₂⟩ := claimResumed_duplicate c j a p frame source evicted
    exact (h₁.toKept.trans (emit_kept c₁ _)).trans h₂.toKept
  | error => exact (claimResumed_error c j a p frame).toKept

end Kept

section Registry

/-- Registered records are old ones, and each is registered under its peer's address. -/
structure Registry (c : Core) : Prop where
  old : ∀ a p, c.peers.get a = some p → p < c.nextRecord
  address : ∀ a p, c.peers.get a = some p → (c.records p).identity.nodeAddress = a

theorem registry_create (config : Config) : Registry (create config) :=
  ⟨fun _ _ h => by simp [create] at h, fun _ _ h => by simp [create] at h⟩

theorem Registry.of_kept (r : Registry c) (k : Kept c c') : Registry c' where
  old a p h := k.nextRecord ▸ r.old a p (k.peers a p h)
  address a p h := by rw [k.identity, r.address a p (k.peers a p h)]

theorem Registry.modifyRecord (r : Registry c) (p : Nat) {f : Peer → Peer}
    (hf : (f (c.records p)).identity = (c.records p).identity) : Registry (c.modifyRecord p f) where
  old := r.old
  address a q h := by
    by_cases hq : q = p
    · subst hq
      rw [Core.modifyRecord_records_self, hf, r.address a q h]
    · rw [Core.modifyRecord_records_ne c f hq, r.address a q h]

theorem Registry.register (r : Registry c) (link : Nat) (identity : RuntimeNodeIdentity) :
    Registry (addPeer c link identity) where
  old a p h := by
    simp only [addPeer, get_set] at h ⊢
    split at h
    · cases h
      omega
    · have := r.old a p h
      omega
  address a p h := by
    simp only [addPeer, get_set] at h ⊢
    split at h
    case isTrue ha =>
      cases h
      rw [Function.update_self, ha]
    case isFalse =>
      rw [Function.update_of_ne (Nat.ne_of_lt (r.old a p h)), r.address a p h]

theorem Registry.routine (r : Registry c) (h : Routine frames c c') : Registry c' := by
  cases h with
  | quiet q => exact r.of_kept q.toKept
  | register link identity => exact r.register link identity
  | arrive a p frame hp hsource hframe => exact r.of_kept (claim_kept c _ _ _)
  | ack a p messageId hp => exact r.of_kept ((emit_kept c _).trans (clearPendingAck_quiet _ _ _ _).toKept)

theorem routines_invariant {I : Core → Prop} (preserved : ∀ c c', I c → Routine frames c c' → I c')
    (hc : I c) (h : Routines frames c c') : I c' := by
  induction h with
  | refl => exact hc
  | tail _ hlast ih => exact preserved _ _ ih hlast

theorem Registry.step (r : Registry c) {a : Action} (h : step c a = some c') : Registry c' := by
  cases a with
  | send destination message =>
    rcases send_cases h with ⟨-, q⟩ | ⟨p, frame, -, q⟩
    · exact r.of_kept q.toKept
    · exact (r.modifyRecord p rfl).of_kept ((emit_kept _ _).trans q.toKept)
  | sendSettled job ok =>
    rcases sendSettled_cases h with q | ⟨a, p, item, i, c₁, -, -, -, q₁, q₂⟩
    · exact r.of_kept q.toKept
    · exact ((r.of_kept q₁.toKept).modifyRecord p rfl).of_kept q₂.toKept
  | providerAnswers job answer =>
    obtain ⟨a, p, frame, -, rfl⟩ := providerAnswers_cases h
    exact (r.of_kept (dropJob_quiet c job).toKept).of_kept (claimAnswered_kept _ _ _ _ _ _)
  | microtask =>
    obtain ⟨m, rest, -, h⟩ := microtask_cases h
    have hpopped : Kept c { c with microtasks := rest } := { Kept.refl c with }
    rcases h with ⟨a, p, rfl, q⟩ | ⟨j, a, p, frame, outcome, rfl, rfl⟩
    · exact r.of_kept (hpopped.trans q.toKept)
    · exact r.of_kept (hpopped.trans (claimResumed_kept _ j a p frame outcome))
  | timer t =>
    rcases timer_cases h with q | ⟨p, id, c₁, q₁, -, q₂ | q₂⟩
    · exact r.of_kept q.toKept
    · exact r.of_kept ((q₁.toKept.trans (emit_kept c₁ _)).trans q₂.toKept)
    · exact r.of_kept ((q₁.toKept.trans (emit_kept c₁ _)).trans q₂.toKept)
  | connect | dialSettled | authSettled | acceptInbound | rejectInbound | disconnect | flushPeer | linkFact
  | linkAlive | linkOpens | clock | stop =>
    exact routines_invariant (fun _ _ r h => r.routine h) r (step_routines (by trivial) h)

end Registry

end ActorWeb.TransportMoves
