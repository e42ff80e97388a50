import ActorWeb.TransportInbox

/-! One connection over a link that loses and reorders nothing. -/

namespace ActorWeb.TransportGaps

open Option List TransportContract TransportCore TransportQuiet TransportMoves TransportNumbering
open TransportTicks TransportTransmissions TransportOutbound TransportInbound TransportWire
open TransportInbox SequenceNumbers Transition

/-- The two ends of a connection, with the number of frames that the link has delivered. -/
structure Session where
  (sender receiver : Core)
  delivered : Nat

def create (sender receiver : Config) : Session where
  sender := TransportCore.create sender
  receiver := TransportCore.create receiver
  delivered := 0

inductive SessionAction
  | sender (a : Action)
  | receiver (a : Action)
  | deliver

/-- The next frame of the sender's record reaches the record that the receiver has
registered for its link. -/
def deliver (p q : Nat) (s : Session) : Option Session :=
  match (linked p s.sender.log)[s.delivered]?,
      (s.receiver.links (s.receiver.records q).link).sink with
  | some frame, some nodeAddress =>
    if s.receiver.peers.get nodeAddress = some q then
      (TransportCore.step s.receiver
        (.linkFact (s.receiver.records q).link (.payload (.frame frame)))).map fun c =>
          { s with receiver := c, delivered := s.delivered + 1 }
    else none
  | _, _ => none

def step (p q : Nat) (s : Session) : SessionAction → Option Session
  | .sender a => (TransportCore.step s.sender a).map fun c => { s with sender := c }
  | .receiver a =>
    if arriving a = [] then
      (TransportCore.step s.receiver a).map fun c => { s with receiver := c }
    else none
  | .deliver => deliver p q s

def accepts (c : Core) (destination : String) (message : ActorMessage) : Bool :=
  match nextFrame c destination message with
  | some (p, _) => resolveBackpressure (c.records p).outboundQueue.length
      c.config.outboundQueueLimit = .enqueue
  | none => false

/-- The receiver has seen no gap, and a call that was rejected left the record as it was. -/
def Traceless (p : Nat) (s : Session) (a : SessionAction) (s' : Session) : Prop :=
  s'.receiver.stats.total .sequenceGapCount = 0 ∧ ∀ destination message,
    a = .sender (.send destination message) → accepts s.sender destination message = false →
      s'.sender.records p = s.sender.records p

def Ordered (q : Nat) (s : Session) : SessionAction → Prop
  | .receiver a => answersInOrder q s.receiver a = true
  | _ => True

def Undropped (p : Nat) (s : Session) : SessionAction → Prop
  | .sender a => dropped p s.sender a = false
  | _ => True

instance (q : Nat) (s : Session) : (a : SessionAction) → Decidable (Ordered q s a)
  | .receiver a => inferInstanceAs (Decidable (answersInOrder q s.receiver a = true))
  | .sender _ | .deliver => isTrue trivial

instance (p : Nat) (s : Session) : (a : SessionAction) → Decidable (Undropped p s a)
  | .sender a => inferInstanceAs (Decidable (dropped p s.sender a = false))
  | .receiver _ | .deliver => isTrue trivial

def Present (q : Nat) (c : Core) : Prop := (∃ a, c.peers.get a = some q) ∨ c.nextRecord ≤ q

structure Unreached (q : Nat) (c c' : Core) : Prop where
  arrivals : arrivals q c' = arrivals q c
  present : Present q c' → Present q c

namespace Unreached

variable {q : Nat} {c c' c'' : Core}

theorem trans (u : Unreached q c c') (u' : Unreached q c' c'') : Unreached q c c'' where
  arrivals := u'.arrivals.trans u.arrivals
  present h := u.present (u'.present h)

theorem of_calm (k : Calm q c c') (hpeers : ∀ a, c'.peers.get a = some q → c.peers.get a = some q) :
    Unreached q c c' where
  arrivals := k.arrivals
  present := Or.imp (fun ⟨a, ha⟩ => ⟨a, hpeers a ha⟩) k.nextRecord.trans

theorem of_ticks (h : Ticks c c') : Unreached q c c' := by
  induction h with
  | refl => exact ⟨rfl, id⟩
  | tail _ hlast ih =>
    exact ih.trans (of_calm (.of_tick hlast) fun a => (kept_of_tick hlast).peers a q)

theorem register (q : Nat) (c : Core) (link : Nat) (identity : RuntimeNodeIdentity) :
    Unreached q c (addPeer c link identity) where
  arrivals := rfl
  present := by
    rintro (⟨a, ha⟩ | hnext)
    · simp only [addPeer, OrderedMap.get_set] at ha
      split at ha
      · exact .inr (some.inj ha).le
      · exact .inl ⟨a, ha⟩
    · exact .inr ((Nat.le_succ _).trans hnext)

theorem of_rounds (h : Rounds [] c c') : Unreached q c c' := by
  induction h with
  | refl => exact ⟨rfl, id⟩
  | tail _ hlast ih =>
    refine ih.trans ?_
    cases hlast with
    | tick h => exact of_calm (.of_tick h) fun a => (kept_of_tick h).peers a q
    | register link identity => exact register q _ link identity
    | arrive a p frame hp hframe => cases hframe
    | ack a p messageId =>
      exact of_calm (.clearPendingAck q _ a p messageId) fun b =>
        (clearPendingAck_quiet _ a p messageId).toKept.peers b q
    | pop a p item rest hqueue => exact of_calm (.popped q _ a p item rest) fun _ => id

theorem claimAnswered (c : Core) (job : Nat) (a : String) (p : Nat) (frame : RuntimeTransportFrame)
    (answer : ClaimAnswer) : Unreached q c (claimAnswered c job a p frame answer) := by
  have hkept := claimAnswered_kept c job a p frame answer
  refine ⟨?_, Or.imp (fun ⟨b, hb⟩ => ⟨b, hkept.peers b q hb⟩) hkept.nextRecord.ge.trans⟩
  cases answer with
  | claimed | duplicate =>
    simp [TransportInbox.arrivals, TransportCore.claimAnswered, Core.addMicrotask, Core.emit,
      Core.modifyRecord, arrivedOn]
  | error => rfl

theorem microtask (h : TransportCore.step c .microtask = some c') : Unreached q c c' := by
  simp only [TransportCore.step] at h
  split at h
  case h_1 m rest hm =>
    cases h
    have hpopped : Unreached q c { c with microtasks := rest } := ⟨rfl, id⟩
    cases m with
    | claimed job a p frame outcome =>
      obtain ⟨-, hticks⟩ | ⟨-, c₁, hbefore, hafter⟩ :=
        claimResumed_ticks { c with microtasks := rest } job a p frame outcome
      · exact hpopped.trans (of_ticks hticks)
      · have hreceived : Unreached q c₁ (recordFrameReceived c₁ a p frame) := by
          unfold recordFrameReceived
          split <;> exact ⟨rfl, id⟩
        exact hpopped.trans ((of_ticks hbefore).trans (hreceived.trans (of_ticks hafter)))
    | retryRejected a p => exact hpopped.trans (of_ticks (ticks_closes.of_disconnect _ a))
  case h_2 => cases h

theorem timer {t : Nat} (h : TransportCore.step c (.timer t) = some c') : Unreached q c c' := by
  have hcleared := Calm.setTimer q c t none
  obtain hrounds | ⟨a, p, n, -, -, hrounds | hrounds | ⟨-, hrounds | hrounds⟩⟩ := timer_turn [] h
  · exact of_rounds hrounds
  · exact (of_calm (hcleared.trans (.gaveUp q _ p n)) fun _ => id).trans (of_rounds hrounds)
  · exact (of_calm (hcleared.trans (.armAckRetry q _ a p n)) fun _ => id).trans (of_rounds hrounds)
  all_goals
    obtain ⟨-, hpeers, -⟩ := Gapless.retried_frame c t a p n
    have hretried : Unreached q c (retried (c.setTimer t none) a p n) :=
      of_calm (hcleared.trans (.retried q _ a p n)) fun b hb => hpeers ▸ hb
  · exact hretried.trans (of_rounds hrounds)
  · exact (hretried.trans (of_calm (.pushed q _ p _) fun _ => id)).trans (of_rounds hrounds)

theorem step {a : Action} (ha : arriving a = []) (h : TransportCore.step c a = some c') :
    Unreached q c c' := by
  cases a with
  | send destination message =>
    obtain ⟨-, hrounds⟩ | ⟨p, frame, -, ⟨-, hrounds⟩ | ⟨-, hrounds⟩⟩ := send_turn [] h
    · exact of_rounds hrounds
    · exact (of_calm (.numbered q c p frame) fun _ => id).trans (of_rounds hrounds)
    · have hpushed := (Calm.numbered q c p frame).trans (.pushed q _ p ⟨frame, true, none⟩)
      exact (of_calm hpushed fun _ => id).trans (of_rounds hrounds)
  | sendSettled job ok =>
    obtain hrounds | ⟨a, p, item, hjob, -, hrounds⟩ := sendSettled_turn [] h
    · exact of_rounds hrounds
    · have hsettled := Calm.dropJob q c (j := job) (by simp [hjob])
      have hwatched := hsettled.trans (.watched q _ a p item.frame)
      exact (of_calm hwatched fun _ => id).trans (of_rounds hrounds)
  | providerAnswers job answer =>
    obtain ⟨a, p, frame, -, rfl⟩ := providerAnswers_cases h
    have hsettled : Unreached q c (c.setJob job none) := ⟨rfl, id⟩
    exact hsettled.trans (claimAnswered _ job a p frame answer)
  | microtask => exact microtask h
  | timer t => exact timer h
  | connect | dialSettled | authSettled | acceptInbound | rejectInbound | disconnect | flushPeer
  | linkFact | linkAlive | linkOpens | clock | stop =>
    have hrounds := step_rounds (by trivial) h
    rw [ha] at hrounds
    exact of_rounds hrounds

end Unreached

structure Unclaimed (c : Core) : Prop where
  provider : c.config.idempotencyProvider = false
  jobs : ∀ j a p f, c.jobs j ≠ some (.claiming a p f)

namespace Unclaimed

variable {c c' : Core} {frames : List RuntimeTransportFrame}

theorem calm (u : Unclaimed c) {q : Nat} (k : Calm q c c') : Unclaimed c' where
  provider := k.config ▸ u.provider
  jobs j a p f h := by
    have hsame := k.jobs (fun j a p f h => absurd h (u.jobs j a p f)) j a p f
    exact u.jobs j a p f (hsame.mp h)

theorem claim (u : Unclaimed c) (a : String) (p : Nat) (frame : RuntimeTransportFrame) :
    Unclaimed (claim c a p frame) := by
  obtain ⟨b, ⟨-, hjobs, -⟩ | ⟨-, hjobs, -⟩ | ⟨hprovider, -⟩⟩ := Inbox.claim_begun p c a frame
  · exact ⟨b.config ▸ u.provider, hjobs ▸ u.jobs⟩
  · exact ⟨b.config ▸ u.provider, hjobs ▸ u.jobs⟩
  · rw [u.provider] at hprovider
    cases hprovider

theorem rounds (u : Unclaimed c) (h : Rounds frames c c') : Unclaimed c' := by
  induction h with
  | refl => exact u
  | tail _ hlast ih =>
    cases hlast with
    | tick h => exact ih.calm (.of_tick (q := 0) h)
    | register link identity => exact ⟨ih.provider, ih.jobs⟩
    | arrive a p frame hp hframe =>
      exact ih.claim a p frame
    | ack a p messageId => exact ih.calm (.clearPendingAck 0 _ a p messageId)
    | pop a p item rest hqueue => exact ih.calm (.popped 0 _ a p item rest)

theorem ticks (u : Unclaimed c) (h : Ticks c c') : Unclaimed c' := u.calm (.of_ticks (q := 0) h)

theorem microtask (u : Unclaimed c) (h : TransportCore.step c .microtask = some c') :
    Unclaimed c' := by
  simp only [TransportCore.step] at h
  split at h
  case h_1 m rest hm =>
    cases h
    have hpopped : Unclaimed { c with microtasks := rest } := ⟨u.provider, u.jobs⟩
    cases m with
    | claimed job a p frame outcome =>
      obtain ⟨-, hticks⟩ | ⟨-, c₁, hbefore, hafter⟩ :=
        claimResumed_ticks { c with microtasks := rest } job a p frame outcome
      · exact hpopped.ticks hticks
      · have hbefore := hpopped.ticks hbefore
        have hreceived : Unclaimed (recordFrameReceived c₁ a p frame) := by
          unfold recordFrameReceived
          split <;> exact ⟨hbefore.provider, hbefore.jobs⟩
        exact hreceived.ticks hafter
    | retryRejected a p => exact hpopped.ticks (ticks_closes.of_disconnect _ a)
  case h_2 => cases h

theorem timer (u : Unclaimed c) {t : Nat} (h : TransportCore.step c (.timer t) = some c') :
    Unclaimed c' := by
  have hcleared := Calm.setTimer 0 c t none
  obtain hrounds | ⟨a, p, n, -, -, hrounds | hrounds | ⟨-, hrounds | hrounds⟩⟩ := timer_turn [] h
  · exact u.rounds hrounds
  · exact (u.calm (hcleared.trans (.gaveUp 0 _ p n))).rounds hrounds
  · exact (u.calm (hcleared.trans (.armAckRetry 0 _ a p n))).rounds hrounds
  · exact (u.calm (hcleared.trans (.retried 0 _ a p n))).rounds hrounds
  · exact (u.calm ((hcleared.trans (.retried 0 _ a p n)).trans (.pushed 0 _ p _))).rounds hrounds

theorem step (u : Unclaimed c) {a : Action} (h : TransportCore.step c a = some c') :
    Unclaimed c' := by
  cases a with
  | send destination message =>
    obtain ⟨-, hrounds⟩ | ⟨p, frame, -, ⟨-, hrounds⟩ | ⟨-, hrounds⟩⟩ := send_turn [] h
    · exact u.rounds hrounds
    · exact (u.calm (.numbered 0 c p frame)).rounds hrounds
    · exact (u.calm ((Calm.numbered 0 c p frame).trans (.pushed 0 _ p _))).rounds hrounds
  | sendSettled job ok =>
    obtain hrounds | ⟨a, p, item, hjob, -, hrounds⟩ := sendSettled_turn [] h
    · exact u.rounds hrounds
    · have hsettled := Calm.dropJob 0 c (j := job) (by simp [hjob])
      exact (u.calm (hsettled.trans (.watched 0 _ a p item.frame))).rounds hrounds
  | providerAnswers job answer =>
    obtain ⟨a, p, frame, hjob, -⟩ := providerAnswers_cases h
    exact absurd hjob (u.jobs job a p frame)
  | microtask => exact u.microtask h
  | timer t => exact u.timer h
  | connect | dialSettled | authSettled | acceptInbound | rejectInbound | disconnect | flushPeer
  | linkFact | linkAlive | linkOpens | clock | stop => exact u.rounds (step_rounds (by trivial) h)

end Unclaimed

structure Sound (p q : Nat) (config : Config) (s : Session) : Prop where
  outbound : Outbound config s.sender
  registry : Registry s.sender
  gapless : Gapless p s.sender
  receiver : Registry s.receiver
  inbox : ∃ waiting, Inbox q s.receiver [] waiting
  source : ∀ f ∈ arrivals q s.receiver, .linkSend p f ∈ s.sender.log
  delivered : s.delivered ≤ (linked p s.sender.log).length
  whole : Present q s.receiver → arrivals q s.receiver = (linked p s.sender.log).take s.delivered

namespace Sound

variable {p q : Nat} {config : Config} {s s' : Session}

theorem create (sender receiver : Config) : Sound p q sender (create sender receiver) where
  outbound := .create sender
  registry := registry_create sender
  gapless := .create sender p
  receiver := registry_create receiver
  inbox := ⟨[], .create receiver q⟩
  source _ h := by cases h
  delivered := Nat.zero_le _
  whole _ := rfl

theorem same_number (h : Sound p q config s) {f g : RuntimeTransportFrame}
    (hf : .linkSend p f ∈ s.sender.log) (hg : .linkSend p g ∈ s.sender.log)
    (hid : f.messageId = g.messageId) : f.sequence = g.sequence :=
  h.outbound.id_sequence (h.outbound.genuine p f hf) (h.outbound.genuine p g hg) hid

theorem sender_step (h : Sound p q config s) {a : Action} (ha : dropped p s.sender a = false)
    {c : Core} (hc : TransportCore.step s.sender a = some c) :
    Sound p q config { s with sender := c } := by
  have hgrows := step_grows hc
  have hlinked := linked_grows p hgrows
  refine ⟨h.outbound.step h.registry hc, h.registry.step hc,
    h.gapless.step h.outbound h.registry ha hc, h.receiver, h.inbox,
    fun f hf => hgrows.subset (h.source f hf), h.delivered.trans hlinked.length_le, fun hq => ?_⟩
  rw [h.whole hq]
  obtain ⟨new, hnew⟩ := hlinked
  change _ = (linked p c.log).take s.delivered
  rw [← hnew, take_append_of_le_length h.delivered]

theorem same_arrivals (h : Sound p q config s) :
    ∀ f ∈ arrivals q s.receiver, ∀ g ∈ arrivals q s.receiver, f.messageId = g.messageId →
      f.sequence = g.sequence :=
  fun f hf g hg => h.same_number (h.source f hf) (h.source g hg)

theorem receiver_step (h : Sound p q config s) {a : Action} (ha : arriving a = [])
    (hanswers : answersInOrder q s.receiver a = true) {c : Core}
    (hc : TransportCore.step s.receiver a = some c) :
    Sound p q config { s with receiver := c } := by
  obtain ⟨waiting, hwaiting⟩ := h.inbox
  have hunreached : Unreached q s.receiver c := .step ha hc
  exact
    { h with
      receiver := h.receiver.step hc
      inbox := hwaiting.step ha hanswers h.same_arrivals hc
      source := hunreached.arrivals ▸ h.source
      whole := fun hq => hunreached.arrivals.trans (h.whole (hunreached.present hq)) }

theorem deliver_step (h : Sound p q config s) (hs : deliver p q s = some s') :
    Sound p q config s' := by
  simp only [deliver] at hs
  split at hs
  case h_2 => cases hs
  case h_1 frame nodeAddress hframe hsink =>
    split at hs
    case isFalse => cases hs
    case isTrue hq =>
      obtain ⟨c, hc, rfl⟩ := map_eq_some_iff.mp hs
      obtain ⟨waiting, hwaiting⟩ := h.inbox
      have hreceiver := h.receiver.step hc
      have hwhole := h.whole (.inl ⟨nodeAddress, hq⟩)
      have hmem : .linkSend p frame ∈ s.sender.log :=
        mem_linked.mp (mem_of_getElem? hframe)
      have htake : (linked p s.sender.log).take (s.delivered + 1) =
          arrivals q s.receiver ++ [frame] := by
        rw [take_add_one, hframe, hwhole]
        rfl
      -- the frame is next to those that arrived among all that the link was given
      have hrise : frame.sequence ≤ highest 0 ((arrivals q s.receiver).map (·.sequence)) + 1 := by
        have hlinked := (rising_append.mp h.gapless.rising).1
        rw [← take_append_drop (s.delivered + 1) (linked p s.sender.log), map_append,
          htake, map_append, rising_append] at hlinked
        exact (rising_concat.mp hlinked.1).2
      have hids : ∀ g ∈ arrivals q s.receiver, g.messageId = frame.messageId →
          g.sequence = frame.sequence := fun g hg => h.same_number (h.source g hg) hmem
      have hhandled : c = handleInboundPayload s.receiver nodeAddress
          (s.receiver.records q).link (.frame frame) := by
        simp only [TransportCore.step, hsink, handleFact, some.injEq] at hc
        exact hc.symm
      obtain ⟨hinbox, harrivals⟩ := hwaiting.deliver h.receiver hq hrise hids hhandled
      refine ⟨h.outbound, h.registry, h.gapless, hreceiver, hinbox, fun f hf => ?_, ?_, fun hpresent => ?_⟩
      · obtain hnew | ⟨hsame, -⟩ := harrivals
        · obtain hf | hf := mem_append.mp (hnew ▸ hf)
          · exact h.source f hf
          · exact mem_singleton.mp hf ▸ hmem
        · exact h.source f (hsame ▸ hf)
      · exact (List.getElem?_eq_some_iff.mp hframe).1
      · obtain hnew | ⟨-, hborn, hgone⟩ := harrivals
        · exact hnew.trans htake.symm
        · obtain ⟨a, ha⟩ | hnext := hpresent
          · exact absurd ha (hgone a)
          · exact absurd hborn (Nat.not_lt.mpr hnext)

theorem step (h : Sound p q config s) {a : SessionAction} (hanswers : Ordered q s a)
    (ha : Undropped p s a) (hs : step p q s a = some s') : Sound p q config s' := by
  cases a with
  | sender a =>
    obtain ⟨c, hc, rfl⟩ := map_eq_some_iff.mp hs
    exact h.sender_step ha hc
  | receiver a =>
    simp only [TransportGaps.step] at hs
    split at hs
    case isTrue harriving =>
      obtain ⟨c, hc, rfl⟩ := map_eq_some_iff.mp hs
      exact h.receiver_step harriving hanswers hc
    case isFalse => cases hs
  | deliver => exact h.deliver_step hs

theorem gaps (h : Sound p q config s) : s.receiver.stats.total .sequenceGapCount = 0 :=
  h.inbox.elim fun _ i => i.gaps

end Sound

section Rejected

variable {p q : Nat} {c : Core} {destination : String} {message : ActorMessage}
  {frame : RuntimeTransportFrame}

theorem send_refused (h : nextFrame c destination message = none) :
    (send c destination message).records = c.records := by
  unfold nextFrame at h
  unfold send
  split
  case h_1 => rfl
  case h_2 p hp =>
    simp only [hp] at h
    split at h
    case isTrue hlarge =>
      simp only [hlarge, if_true]
      rfl
    case isFalse => cases h

theorem send_dropped (h : nextFrame c destination message = some (q, frame))
    (hdrop : resolveBackpressure (c.records q).outboundQueue.length c.config.outboundQueueLimit =
      .drop) : (send c destination message).records = (numbered c q frame).records := by
  have hqueue : ((numbered c q frame).records q).outboundQueue = (c.records q).outboundQueue := by
    simp only [numbered, Core.emit, Core.modifyRecord_records_self]
  have hsend : send c destination message =
      enqueueFrame (numbered c q frame) destination q ⟨frame, true, none⟩ := by
    obtain ⟨hq, -⟩ := nextFrame_eq_some h
    simp only [nextFrame, hq] at h
    split at h
    case isTrue => cases h
    case isFalse hsmall =>
      cases h
      simp only [send, hq, hsmall, if_false]
      rfl
  have hverdict : resolveBackpressure ((numbered c q frame).records q).outboundQueue.length
      (numbered c q frame).config.outboundQueueLimit = .drop := by
    rw [hqueue]
    exact hdrop
  rw [hsend]
  simp only [enqueueFrame, hverdict, rejectItem]
  rfl

theorem send_rejected (p : Nat) (h : accepts c destination message = false) :
    (send c destination message).records p = c.records p ↔
      dropped p c (.send destination message) = false := by
  cases hnext : nextFrame c destination message with
  | none =>
    rw [send_refused hnext]
    simp only [dropped, hnext]
  | some next =>
    obtain ⟨q, frame⟩ := next
    have hdrop : resolveBackpressure (c.records q).outboundQueue.length
        c.config.outboundQueueLimit = .drop := by
      simp only [accepts, hnext, decide_eq_false_iff_not] at h
      cases hverdict : resolveBackpressure (c.records q).outboundQueue.length
          c.config.outboundQueueLimit with
      | drop => rfl
      | enqueue => exact absurd hverdict h
    rw [send_dropped hnext hdrop]
    simp only [dropped, hnext, hdrop, decide_true, Bool.and_true, decide_eq_false_iff_not]
    constructor
    · rintro hsame rfl
      have hsequence := congrArg Peer.sequence hsame
      simp only [numbered, Core.emit, Core.modifyRecord_records_self] at hsequence
      exact Nat.succ_ne_self _ hsequence
    · intro hne
      have hother : (numbered c q frame).records p = c.records p :=
        Function.update_of_ne (Ne.symm hne) _ _
      exact hother

theorem accepts_of_dropped (h : dropped p c (.send destination message) = true) :
    accepts c destination message = false := by
  cases hnext : nextFrame c destination message with
  | none => simp only [accepts, hnext]
  | some next =>
    simp only [dropped, hnext, Bool.and_eq_true, decide_eq_true_eq] at h
    simp only [accepts, hnext, h.2]
    rfl

end Rejected

section Runs

variable {p q : Nat} {config : Config} {s s' : Session} {a : SessionAction}

theorem traceless_step (h : Sound p q config s) (hanswers : Ordered q s a) (ha : Undropped p s a)
    (hs : step p q s a = some s') : Sound p q config s' ∧ Traceless p s a s' := by
  have hsound := h.step hanswers ha hs
  refine ⟨hsound, hsound.gaps, fun destination message heq hrejected => ?_⟩
  subst heq
  cases hs
  exact (send_rejected p hrejected).mpr ha

theorem undropped_of_traceless (ht : Traceless p s a s') (hs : step p q s a = some s') :
    Undropped p s a := by
  cases a with
  | receiver a => trivial
  | deliver => trivial
  | sender a =>
    cases a with
    | send destination message =>
      cases hs
      cases hdropped : dropped p s.sender (.send destination message) with
      | false => exact hdropped
      | true =>
        have hrejected := accepts_of_dropped hdropped
        exact (send_rejected p hrejected).mp (ht.2 _ _ rfl hrejected)
    | _ => rfl

theorem unclaimed_step (u : Unclaimed s.receiver) (hs : step p q s a = some s') :
    Unclaimed s'.receiver := by
  cases a with
  | sender a =>
    obtain ⟨c, -, rfl⟩ := map_eq_some_iff.mp hs
    exact u
  | receiver a =>
    simp only [step] at hs
    split at hs
    case isTrue =>
      obtain ⟨c, hc, rfl⟩ := map_eq_some_iff.mp hs
      exact u.step hc
    case isFalse => cases hs
  | deliver =>
    simp only [step, deliver] at hs
    split at hs
    case h_2 => cases hs
    case h_1 =>
      split at hs
      case isFalse => cases hs
      case isTrue =>
        obtain ⟨c, hc, rfl⟩ := map_eq_some_iff.mp hs
        exact u.step hc

theorem ordered_of_memory (sender receiver : Config) (p q : Nat) (as : List SessionAction)
    (hmemory : receiver.idempotencyProvider = false) :
    Guarded (step p q) (Ordered q) (create sender receiver) as := by
  refine along_of_invariant (I := fun s => Unclaimed s.receiver)
    (fun _ _ _ u hs => unclaimed_step u hs) (fun s a _ u _ => ?_)
    ⟨hmemory, by simp [create, TransportCore.create]⟩ as
  cases a with
  | sender a => trivial
  | deliver => trivial
  | receiver a =>
    cases a with
    | providerAnswers job answer =>
      simp only [Ordered, answersInOrder]
      split
      case h_1 a p frame hjob => exact absurd hjob (u.jobs job a p frame)
      case h_2 => rfl
    | _ => rfl

/-- Over a link that loses and reorders nothing, with a provider (if any) that answers in
order, the rejected calls of a connection leave no trace in exactly those runs in which its
full queue rejects none. -/
theorem traceless_iff_undropped (sender receiver : Config) (p q : Nat) (as : List SessionAction)
    (hanswers : receiver.idempotencyProvider = true →
      Guarded (step p q) (Ordered q) (create sender receiver) as) :
    Along (step p q) (Traceless p) (create sender receiver) as ↔
      Guarded (step p q) (Undropped p) (create sender receiver) as := by
  constructor
  · intro htraceless
    refine along_iff_cut.mpr fun pre a post t u hcut hpre ha => ?_
    exact undropped_of_traceless (along_iff_cut.mp htraceless pre a post t u hcut hpre ha) ha
  · intro hundropped
    have hordered : Guarded (step p q) (Ordered q) (create sender receiver) as := by
      cases hprovider : receiver.idempotencyProvider with
      | true => exact hanswers hprovider
      | false => exact ordered_of_memory sender receiver p q as hprovider
    have hguards : Guarded (step p q) (fun s a => Ordered q s a ∧ Undropped p s a)
        (create sender receiver) as := along_and.mpr ⟨hordered, hundropped⟩
    exact along_of_guarded (fun _ _ _ h hg => traceless_step h hg.1 hg.2)
      (.create sender receiver) hguards

/-- Messages of ten bytes, and one place in the queue behind the frame in flight. -/
def narrowNode : Config := { nodeA with maxFrameBytes := 10, outboundQueueLimit := 1 }

def memoryNode : Config := { nodeA with identity := identityB, idempotencyProvider := false }

def call (body : String) : SessionAction := .sender (.send "b" ⟨"user.message", body⟩)

def registered : List SessionAction :=
  [.sender (.acceptInbound (linkFrom identityB) []),
    .receiver (.acceptInbound (linkFrom nodeA.identity) [])]

def largeRun : List SessionAction :=
  registered ++ [call "first", call "a long message", .sender (.sendSettled 0 true), call "third",
    .deliver, .receiver .microtask, .deliver, .receiver .microtask]

theorem largeRun_traceless : Along (step 0 0) (Traceless 0) (create narrowNode memoryNode) largeRun :=
  (traceless_iff_undropped narrowNode memoryNode 0 0 largeRun (fun _ => by decide)).mpr (by decide)

/-- The third of four messages finds the queue full; the fourth arrives behind the second. -/
def fullRun : List SessionAction :=
  registered ++ [call "first", call "second", call "third", .sender (.sendSettled 0 true),
    call "fourth", .sender (.sendSettled 1 true), .deliver, .receiver .microtask, .deliver,
    .receiver .microtask, .deliver, .receiver .microtask]

theorem fullRun_leaves_gap :
    (∃ s, exec (step 0 0) (create narrowNode memoryNode) fullRun = some s ∧
      s.receiver.stats.total .sequenceGapCount = 1) ∧
      ¬ Along (step 0 0) (Traceless 0) (create narrowNode memoryNode) fullRun := by
  refine ⟨⟨_, rfl, by decide⟩, fun h => ?_⟩
  have hlast := along_iff_cut.mp h fullRun.dropLast (.receiver .microtask) [] _ _ rfl rfl rfl
  exact absurd hlast.1 (by decide)

end Runs

end ActorWeb.TransportGaps
