import ActorWeb.TransportTransmissions

/-! What the queues, the pending entries and the timers of a node know of the frames sent. -/

namespace ActorWeb.TransportOutbound

open Function

open Option List TransportContract TransportCore TransportQuiet TransportMoves TransportNumbering
open TransportTicks TransportTransmissions Trace

/-- The frame with this id was neither watched nor retried nor given up. -/
structure Untouched (c : Core) (p : Nat) (id : String) : Prop where
  retries : .retryScheduled p id ∉ c.log
  exhausted : .retryExhausted p id ∉ c.log
  pending : (c.records p).pendingAcks.get id = none
  timers : ∀ t a i, c.timers t = some (.ackRetry a p i) → (c.pendings i).frame.messageId ≠ id

/-- A retry timer is the only one of its pending entry, whose frame was handed over. -/
structure Armed (c : Core) (t p i : Nat) : Prop where
  old : i < c.nextPending
  timer : (c.pendings i).timer = some t
  handed : .linkSend p (c.pendings i).frame ∈ c.log
  retryable : isRetryableRuntimeFrame (c.pendings i).frame = true
  pending : ∀ i', (c.records p).pendingAcks.get (c.pendings i).frame.messageId = some i' → i' = i
  exhausted : .retryExhausted p (c.pendings i).frame.messageId ∉ c.log

structure Pending (c : Core) (p : Nat) (id : String) (i : Nat) : Prop where
  old : i < c.nextPending
  id_eq : (c.pendings i).frame.messageId = id
  handed : .linkSend p (c.pendings i).frame ∈ c.log
  attempts : retries p id c.log = (c.pendings i).attempts

structure Outbound (config : Config) (c : Core) : Prop where
  sameConfig : c.config = config
  numbering : Numbering config.identity c
  increasing : (sends c.log).Pairwise fun a b => a.1 = b.1 → a.2.sequence < b.2.sequence
  genuine : ∀ p f, .linkSend p f ∈ c.log → (p, f) ∈ sends c.log
  queued : ∀ p, ∀ item ∈ (c.records p).outboundQueue, (p, item.frame) ∈ sends c.log
  again : ∀ p, ∀ item ∈ (c.records p).outboundQueue, item.trackAck = false →
    .linkSend p item.frame ∈ c.log
  first : ∀ p, ∀ item ∈ (c.records p).outboundQueue, item.trackAck = true →
    Untouched c p item.frame.messageId ∧
      ∀ g, .linkSend p g ∈ c.log → g.sequence < item.frame.sequence
  queueOrder : ∀ p, ((c.records p).outboundQueue.filter (·.trackAck)).Pairwise
    fun a b => a.frame.sequence < b.frame.sequence
  flying : ∀ j a p item, c.jobs j = some (.drainSend a p item) → item.trackAck = true →
    .linkSend p item.frame ∈ c.log ∧ Untouched c p item.frame.messageId
  flight : ∀ j j' a a' p item item', c.jobs j = some (.drainSend a p item) →
    c.jobs j' = some (.drainSend a' p item') → item.trackAck = true → item'.trackAck = true →
    item.frame.sequence = item'.frame.sequence → j = j'
  pending : ∀ p id i, (c.records p).pendingAcks.get id = some i → Pending c p id i
  owner : ∀ p p' id id' i, (c.records p).pendingAcks.get id = some i →
    (c.records p').pendingAcks.get id' = some i → p = p'
  timers : ∀ t a p i, c.timers t = some (.ackRetry a p i) → Armed c t p i
  cause : ∀ p id, .retryScheduled p id ∈ c.log ∨ .retryExhausted p id ∈ c.log →
    ∃ f, .linkSend p f ∈ c.log ∧ f.messageId = id ∧ isRetryableRuntimeFrame f = true
  copies : ∀ p id, handed p id c.log + waiting c p id ≤ 1 + retries p id c.log
  bound : ∀ p id, (retries p id c.log : Int) ≤ max 0 config.maxAckRetries
  orderly : Disciplined Orderly c.log

namespace Outbound

variable {c c' : Core} {config : Config} {p : Nat} {frame : RuntimeTransportFrame}

theorem create (config : Config) : Outbound config (create config) where
  sameConfig := rfl
  numbering := .create config
  increasing := by simp [TransportCore.create, sends]
  genuine := by simp [TransportCore.create]
  queued := by simp [TransportCore.create]
  again := by simp [TransportCore.create]
  first := by simp [TransportCore.create]
  queueOrder := by simp [TransportCore.create]
  flying := by simp [TransportCore.create]
  flight := by simp [TransportCore.create]
  pending := by simp [TransportCore.create, OrderedMap.get, OrderedMap.empty]
  owner := by simp [TransportCore.create, OrderedMap.get, OrderedMap.empty]
  timers := by simp [TransportCore.create]
  cause := by simp [TransportCore.create]
  copies := by simp [TransportCore.create, handed, waiting]
  bound := by simp [TransportCore.create, retries]
  orderly := disciplined_nil

variable {id : String} {item : OutboundQueueItem}

theorem untouched_of_lesser (l : Lesser c c') (u : Untouched c p id) : Untouched c' p id where
  retries h := u.retries (l.retryScheduled_mem.mp h)
  exhausted h := u.exhausted (l.retryExhausted_mem.mp h)
  pending := by
    refine eq_none_iff_forall_ne_some.mpr fun i hi => ?_
    cases u.pending.symm.trans (l.pendingAcks p id i hi)
  timers t a i h := by
    rw [l.frame]
    exact u.timers t a i (l.timers t a p i h).1

theorem of_lesser (h : Outbound config c) (l : Lesser c c') (hnumbering : Numbering config.identity c')
    (hincreasing : (sends c'.log).Pairwise fun a b => a.1 = b.1 → a.2.sequence < b.2.sequence)
    (hsub : sends c.log ⊆ sends c'.log) : Outbound config c' where
  sameConfig := l.config.trans h.sameConfig
  numbering := hnumbering
  increasing := hincreasing
  genuine p f hf := hsub (h.genuine p f (l.linkSend_mem.mp hf))
  queued p item hitem := hsub (h.queued p item (l.mem_queue hitem))
  again p item hitem htrack :=
    l.linkSend_mem.mpr (h.again p item (l.mem_queue hitem) htrack)
  first p item hitem htrack := by
    obtain ⟨huntouched, hlower⟩ := h.first p item (l.mem_queue hitem) htrack
    exact ⟨untouched_of_lesser l huntouched, fun g hg => hlower g (l.linkSend_mem.mp hg)⟩
  queueOrder p := by
    obtain hsame | hempty := l.queue p
    · rw [hsame]
      exact h.queueOrder p
    · rw [hempty]
      exact .nil
  flying j a p item hj htrack := by
    obtain ⟨hhanded, huntouched⟩ := h.flying j a p item (l.jobs j a p item hj) htrack
    exact ⟨l.linkSend_mem.mpr hhanded, untouched_of_lesser l huntouched⟩
  flight j j' a a' p item item' hj hj' :=
    h.flight j j' a a' p item item' (l.jobs j a p item hj) (l.jobs j' a' p item' hj')
  pending p id i hi := by
    have hpending := h.pending p id i (l.pendingAcks p id i hi)
    refine ⟨l.nextPending ▸ hpending.old, by rw [l.frame, hpending.id_eq], ?_, ?_⟩
    · rw [l.frame]
      exact l.linkSend_mem.mpr hpending.handed
    · rw [l.retries_eq, l.attempts, hpending.attempts]
  owner p p' id id' i hi hi' :=
    h.owner p p' id id' i (l.pendingAcks p id i hi) (l.pendingAcks p' id' i hi')
  timers t a p i ht := by
    obtain ⟨hold, htimer⟩ := l.timers t a p i ht
    have harmed := h.timers t a p i hold
    refine ⟨l.nextPending ▸ harmed.old, htimer.trans harmed.timer, ?_, ?_, ?_, ?_⟩
    · rw [l.frame]
      exact l.linkSend_mem.mpr harmed.handed
    · rw [l.frame]
      exact harmed.retryable
    · rw [l.frame]
      exact fun i' hi' => harmed.pending i' (l.pendingAcks _ _ _ hi')
    · rw [l.frame]
      exact fun hex => harmed.exhausted (l.retryExhausted_mem.mp hex)
  cause p id hr := by
    obtain ⟨f, hf, hid⟩ := h.cause p id
      (hr.imp l.retryScheduled_mem.mp l.retryExhausted_mem.mp)
    exact ⟨f, l.linkSend_mem.mpr hf, hid⟩
  copies p id := by
    rw [l.handed_eq, l.retries_eq]
    exact (Nat.add_le_add_left (l.waiting_le p id) _).trans (h.copies p id)
  bound p id := by
    rw [l.retries_eq]
    exact h.bound p id
  orderly := l.disciplined h.orderly

theorem of_unsent (h : Outbound config c) (l : Lesser c c') (u : Unsent c c') :
    Outbound config c' :=
  h.of_lesser l (h.numbering.of_unsent u) (by rw [u.sends]; exact h.increasing) (by rw [u.sends]; exact fun _ => id)

theorem id_sequence (h : Outbound config c) {f g : RuntimeTransportFrame}
    (hf : (p, f) ∈ sends c.log) (hg : (p, g) ∈ sends c.log) (hid : f.messageId = g.messageId) :
    f.sequence = g.sequence := by
  obtain ⟨-, hf, -, -⟩ := h.numbering.sent p f hf
  obtain ⟨-, hg, -, -⟩ := h.numbering.sent p g hg
  rw [hf, hg] at hid
  exact (messageId_inj hid).2

theorem same_frame (h : Outbound config c) {f g : RuntimeTransportFrame}
    (hf : (p, f) ∈ sends c.log) (hg : (p, g) ∈ sends c.log) (hid : f.messageId = g.messageId) :
    f = g := by
  have hsequence := h.id_sequence hf hg hid
  obtain ⟨i, hi, hfi⟩ := getElem_of_mem hf
  obtain ⟨j, hj, hgj⟩ := getElem_of_mem hg
  obtain hlt | rfl | hlt := Nat.lt_trichotomy i j
  · have hless := pairwise_iff_getElem.mp h.increasing i j hi hj hlt
    rw [hfi, hgj] at hless
    exact absurd hsequence (Nat.ne_of_lt (hless rfl))
  · exact (Prod.mk.inj (hfi.symm.trans hgj)).2
  · have hless := pairwise_iff_getElem.mp h.increasing j i hj hi hlt
    rw [hfi, hgj] at hless
    exact absurd hsequence (Nat.ne_of_gt (hless rfl))

theorem number (h : Outbound config c) (r : Registry c) {destination : String}
    {message : ActorMessage} (hnext : nextFrame c destination message = some (p, frame)) :
    Outbound config (numbered c p frame) := by
  have hsends : sends (numbered c p frame).log = sends c.log ++ [(p, frame)] :=
    sends_append c.log [.numbered p frame]
  have hlesser : Lesser c (numbered c p frame) :=
    (Lesser.modifyRecord c p (.inl rfl) fun _ _ => id).trans (.emit _ trivial)
  refine h.of_lesser hlesser (h.numbering.number r hnext) ?_ ?_
  · rw [hsends, pairwise_append]
    refine ⟨h.increasing, pairwise_singleton _ _, fun e he e' he' heq => ?_⟩
    obtain ⟨q, f⟩ := e
    obtain rfl := mem_singleton.mp he'
    obtain rfl : q = p := heq
    obtain ⟨-, rfl⟩ := nextFrame_eq_some hnext
    exact Nat.lt_succ_of_le (h.numbering.sent q f he).2.2.2
  · rw [hsends]
    exact subset_append_left _ _

theorem fresh (h : Outbound config c) {destination : String} {message : ActorMessage}
    (hnext : nextFrame c destination message = some (p, frame)) :
    ∀ f, (p, f) ∈ sends c.log → f.sequence < frame.sequence ∧ f.messageId ≠ frame.messageId := by
  intro f hf
  obtain ⟨-, rfl⟩ := nextFrame_eq_some hnext
  obtain ⟨-, hcreated, -, hle⟩ := h.numbering.sent p f hf
  refine ⟨Nat.lt_succ_of_le hle, fun hid => ?_⟩
  rw [hcreated] at hid
  have heq := (messageId_inj hid).2
  omega

theorem untouched_of_fresh (h : Outbound config c)
    (hfresh : ∀ f, (p, f) ∈ sends c.log → f.messageId ≠ id) : Untouched c p id where
  retries hr := by
    obtain ⟨f, hf, hid, -⟩ := h.cause p id (.inl hr)
    exact hfresh f (h.genuine p f hf) hid
  exhausted hr := by
    obtain ⟨f, hf, hid, -⟩ := h.cause p id (.inr hr)
    exact hfresh f (h.genuine p f hf) hid
  pending := by
    refine eq_none_iff_forall_ne_some.mpr fun i hi => ?_
    have hpending := h.pending p id i hi
    exact hfresh _ (h.genuine p _ hpending.handed) hpending.id_eq
  timers t a i ht := hfresh _ (h.genuine p _ (h.timers t a p i ht).handed)

theorem copies_of_fresh (h : Outbound config c)
    (hfresh : ∀ f, (p, f) ∈ sends c.log → f.messageId ≠ id) :
    handed p id c.log + waiting c p id = 0 := by
  have hhanded : handed p id c.log = 0 := by
    refine countP_eq_zero.mpr fun e he => ?_
    cases e with
    | linkSend q f =>
      intro hmatch
      simp only [Bool.and_eq_true, decide_eq_true_eq] at hmatch
      obtain ⟨rfl, hid⟩ := hmatch
      exact hfresh f (h.genuine q f he) hid
    | _ => exact Bool.false_ne_true
  have hwaiting : waiting c p id = 0 := by
    refine countP_eq_zero.mpr fun item hitem => ?_
    have hne := hfresh item.frame (h.queued p item hitem)
    simpa using hne
  rw [hhanded, hwaiting]

theorem push (h : Outbound config c) (hsent : (p, item.frame) ∈ sends c.log)
    (hagain : item.trackAck = false → .linkSend p item.frame ∈ c.log)
    (hfirst : item.trackAck = true → Untouched c p item.frame.messageId ∧
      (∀ g, .linkSend p g ∈ c.log → g.sequence < item.frame.sequence) ∧
      ∀ other ∈ (c.records p).outboundQueue, other.frame.sequence < item.frame.sequence)
    (hcopies : handed p item.frame.messageId c.log +
      waiting c p item.frame.messageId + 1 ≤ 1 + retries p item.frame.messageId c.log) :
    Outbound config (pushed c p item) := by
  have hself : ((pushed c p item).records p).outboundQueue =
      (c.records p).outboundQueue ++ [item] := by
    simp only [pushed, Core.modifyRecord_records_self]
  have hother : ∀ q, q ≠ p → (pushed c p item).records q = c.records q := fun q hq =>
    Core.modifyRecord_records_ne c _ hq
  have hacks : ∀ q, ((pushed c p item).records q).pendingAcks = (c.records q).pendingAcks := by
    intro q
    obtain rfl | hq := eq_or_ne q p
    · simp only [pushed, Core.modifyRecord_records_self]
    · rw [hother q hq]
  have huntouched : ∀ q id, Untouched c q id → Untouched (pushed c p item) q id := fun q id u =>
    ⟨u.retries, u.exhausted, by rw [hacks]; exact u.pending, u.timers⟩
  have hmem : ∀ q, ∀ other ∈ ((pushed c p item).records q).outboundQueue,
      other ∈ (c.records q).outboundQueue ∨ q = p ∧ other = item := by
    intro q other hitem
    obtain rfl | hq := eq_or_ne q p
    · rw [hself, mem_append, mem_singleton] at hitem
      exact hitem.imp_right fun heq => ⟨rfl, heq⟩
    · rw [hother q hq] at hitem
      exact .inl hitem
  refine
    { h with
      numbering := h.numbering.of_unsent (.modifyRecord c p rfl rfl)
      queued := fun q other hitem => ?_
      again := fun q other hitem htrack => ?_
      first := fun q other hitem htrack => ?_
      queueOrder := fun q => ?_
      flying := fun j a q other hj htrack => ?_
      pending := fun q id i hi => ?_
      owner := fun q q' id id' i hi hi' => ?_
      timers := fun t a q i ht => ?_
      copies := fun q id => ?_ }
  · obtain hold | ⟨rfl, rfl⟩ := hmem q other hitem
    · exact h.queued q other hold
    · exact hsent
  · obtain hold | ⟨rfl, rfl⟩ := hmem q other hitem
    · exact h.again q other hold htrack
    · exact hagain htrack
  · obtain hold | ⟨rfl, rfl⟩ := hmem q other hitem
    · exact ⟨huntouched q _ (h.first q other hold htrack).1, (h.first q other hold htrack).2⟩
    · exact ⟨huntouched q _ (hfirst htrack).1, (hfirst htrack).2.1⟩
  · obtain rfl | hq := eq_or_ne q p
    · rw [hself, filter_append, pairwise_append]
      refine ⟨h.queueOrder q, (pairwise_singleton _ _).filter _, fun b hb b' hb' => ?_⟩
      obtain ⟨hb', htrack⟩ := mem_filter.mp hb'
      rw [mem_singleton.mp hb'] at htrack ⊢
      exact (hfirst htrack).2.2 b (mem_filter.mp hb).1
    · rw [hother q hq]
      exact h.queueOrder q
  · obtain ⟨hhanded, hu⟩ := h.flying j a q other hj htrack
    exact ⟨hhanded, huntouched q _ hu⟩
  · rw [hacks] at hi
    exact ⟨(h.pending q id i hi).old, (h.pending q id i hi).id_eq, (h.pending q id i hi).handed,
      (h.pending q id i hi).attempts⟩
  · rw [hacks] at hi hi'
    exact h.owner q q' id id' i hi hi'
  · have harmed := h.timers t a q i ht
    refine ⟨harmed.old, harmed.timer, harmed.handed, harmed.retryable, ?_, harmed.exhausted⟩
    rw [hacks]
    exact harmed.pending
  · have hold := h.copies q id
    obtain rfl | hq := eq_or_ne q p
    · have hwaiting : waiting (pushed c q item) q id =
          waiting c q id + if item.frame.messageId = id then 1 else 0 := by
        rw [waiting, hself, countP_append]
        simp [waiting, countP_cons]
      rw [hwaiting]
      split
      · rename_i hid
        subst hid
        exact hcopies
      · exact hold
    · rw [waiting, hother q hq]
      exact hold

theorem pop (h : Outbound config c) {rest : List OutboundQueueItem}
    (hqueue : (c.records p).outboundQueue = item :: rest) (a : String) :
    Outbound config (popped c a p item rest) := by
  have hself : ((popped c a p item rest).records p).outboundQueue = rest := by
    simp only [popped, Core.emit, Core.addJob, Core.setJob, Core.modifyRecord_records_self]
  have hother : ∀ q, q ≠ p → (popped c a p item rest).records q = c.records q := fun q hq =>
    update_of_ne hq _ _
  have hacks : ∀ q, ((popped c a p item rest).records q).pendingAcks =
      (c.records q).pendingAcks := by
    intro q
    obtain rfl | hq := eq_or_ne q p
    · simp only [popped, Core.emit, Core.addJob, Core.setJob, Core.modifyRecord_records_self]
    · rw [hother q hq]
  have hlog : (popped c a p item rest).log = c.log ++ [.linkSend p item.frame] := rfl
  have hhead : item ∈ (c.records p).outboundQueue := hqueue ▸ mem_cons_self
  have hmem : ∀ q, ∀ other ∈ ((popped c a p item rest).records q).outboundQueue,
      other ∈ (c.records q).outboundQueue := by
    intro q other hitem
    obtain rfl | hq := eq_or_ne q p
    · rw [hself] at hitem
      exact hqueue ▸ mem_cons_of_mem _ hitem
    · rwa [hother q hq] at hitem
  have hgrows : ∀ {e : Event}, e ∈ c.log → e ∈ (popped c a p item rest).log := fun he =>
    mem_append_left _ he
  have hnot : ∀ {e : Event}, e ∈ (popped c a p item rest).log → e ≠ .linkSend p item.frame →
      e ∈ c.log := fun he hne =>
    (mem_append.mp he).resolve_right fun hlast => hne (mem_singleton.mp hlast)
  have huntouched : ∀ q id, Untouched c q id → Untouched (popped c a p item rest) q id :=
    fun q id u => ⟨fun hr => u.retries (hnot hr (by simp)), fun hr => u.exhausted (hnot hr (by simp)),
      by rw [hacks]; exact u.pending, u.timers⟩
  have hsends : sends (popped c a p item rest).log = sends c.log := by
    rw [hlog, sends_append]
    exact append_nil _
  have hretries : ∀ q id, retries q id (popped c a p item rest).log = retries q id c.log := by
    intro q id
    rw [hlog, retries, count_append]
    simp [retries]
  have hrecord : Unsent c (c.modifyRecord p fun r => { r with outboundQueue := rest }) :=
    .modifyRecord c p rfl rfl
  have hadded : Unsent c ((c.modifyRecord p fun r => { r with outboundQueue := rest }).addJob
      (.drainSend a p item)) := { hrecord with }
  have hunsent : Unsent c (popped c a p item rest) := hadded.trans (.emit _ (by simp))
  -- a first transmission comes after every frame that was handed over
  have hlower : item.trackAck = true → ∀ g, .linkSend p g ∈ c.log →
      g.sequence < item.frame.sequence := fun htrack => (h.first p item hhead htrack).2
  have hjobs : ∀ j b q other, (popped c a p item rest).jobs j = some (.drainSend b q other) →
      c.jobs j = some (.drainSend b q other) ∨ j = c.nextJob ∧ q = p ∧ other = item := by
    intro j b q other hj
    obtain rfl | hne := eq_or_ne j c.nextJob
    · simp only [popped, Core.emit, Core.addJob, Core.setJob, Core.modifyRecord,
        update_self, some.injEq, Job.drainSend.injEq] at hj
      exact .inr ⟨rfl, hj.2.1.symm, hj.2.2.symm⟩
    · simp only [popped, Core.emit, Core.addJob, Core.setJob, Core.modifyRecord,
        update_of_ne hne] at hj
      exact .inl hj
  refine
    { sameConfig := h.sameConfig
      numbering := h.numbering.of_unsent hunsent
      increasing := by rw [hsends]; exact h.increasing
      genuine := fun q f hf => ?_
      queued := fun q other hitem => by rw [hsends]; exact h.queued q other (hmem q other hitem)
      again := fun q other hitem htrack => hgrows (h.again q other (hmem q other hitem) htrack)
      first := fun q other hitem htrack => ?_
      queueOrder := fun q => ?_
      flying := fun j b q other hj htrack => ?_
      flight := fun j j' b b' q other other' hj hj' htrack htrack' heq => ?_
      pending := fun q id i hi => ?_
      owner := fun q q' id id' i hi hi' => ?_
      timers := fun t b q i ht => ?_
      cause := fun q id hr => ?_
      copies := fun q id => ?_
      bound := fun q id => by rw [hretries]; exact h.bound q id
      orderly := ?_ }
  · rw [hsends]
    obtain hold | hlast := mem_append.mp hf
    · exact h.genuine q f hold
    · obtain ⟨rfl, rfl⟩ := Event.linkSend.inj (mem_singleton.mp hlast)
      exact h.queued _ item hhead
  · obtain ⟨hu, hbelow⟩ := h.first q other (hmem q other hitem) htrack
    refine ⟨huntouched q _ hu, fun g hg => ?_⟩
    obtain hold | hlast := mem_append.mp hg
    · exact hbelow g hold
    · obtain ⟨rfl, rfl⟩ := Event.linkSend.inj (mem_singleton.mp hlast)
      cases hitemTrack : item.trackAck with
      | false => exact hbelow _ (h.again q item hhead hitemTrack)
      | true =>
        rw [hself] at hitem
        have horder := h.queueOrder q
        rw [hqueue, filter_cons_of_pos hitemTrack] at horder
        exact (pairwise_cons.mp horder).1 other (mem_filter.mpr ⟨hitem, htrack⟩)
  · obtain rfl | hq := eq_or_ne q p
    · rw [hself]
      have horder := h.queueOrder q
      rw [hqueue] at horder
      exact horder.sublist ((sublist_cons_self item rest).filter _)
    · rw [hother q hq]
      exact h.queueOrder q
  · obtain hold | ⟨-, rfl, rfl⟩ := hjobs j b q other hj
    · obtain ⟨hhanded, hu⟩ := h.flying j b q other hold htrack
      exact ⟨hgrows hhanded, huntouched q _ hu⟩
    · exact ⟨mem_concat_self, huntouched q _ (h.first q other hhead htrack).1⟩
  · obtain hold | ⟨rfl, rfl, rfl⟩ := hjobs j b q other hj
    · obtain hold' | ⟨rfl, rfl, rfl⟩ := hjobs j' b' q other' hj'
      · exact h.flight j j' b b' q other other' hold hold' htrack htrack' heq
      · have hlt := hlower htrack' _ (h.flying j b q other hold htrack).1
        omega
    · obtain hold' | ⟨rfl, -, -⟩ := hjobs j' b' q other' hj'
      · have hlt := hlower htrack _ (h.flying j' b' q other' hold' htrack').1
        omega
      · rfl
  · rw [hacks] at hi
    have hpending := h.pending q id i hi
    exact ⟨hpending.old, hpending.id_eq, hgrows hpending.handed, by rw [hretries]; exact hpending.attempts⟩
  · rw [hacks] at hi hi'
    exact h.owner q q' id id' i hi hi'
  · have harmed := h.timers t b q i ht
    refine ⟨harmed.old, harmed.timer, hgrows harmed.handed, harmed.retryable, ?_,
      fun hex => harmed.exhausted (hnot hex (by simp))⟩
    rw [hacks]
    exact harmed.pending
  · obtain ⟨f, hf, hid⟩ := h.cause q id (hr.imp (hnot · (by simp)) (hnot · (by simp)))
    exact ⟨f, hgrows hf, hid⟩
  · have hold := h.copies q id
    rw [hretries, hlog, handed, countP_append]
    obtain rfl | hq := eq_or_ne q p
    · rw [handed, waiting, hqueue, countP_cons] at hold
      rw [waiting, hself]
      simp only [countP_cons, countP_nil, Bool.and_eq_true, decide_eq_true_eq, true_and,
        Nat.zero_add] at hold ⊢
      omega
    · rw [waiting, hother q hq]
      rw [handed, waiting] at hold
      simp only [countP_cons, countP_nil, hq.symm, decide_false, Bool.false_and,
        Bool.false_eq_true, if_false, Nat.add_zero]
      exact hold
  · rw [hlog]
    refine disciplined_concat.mpr ⟨h.orderly, ?_⟩
    cases htrack : item.trackAck with
    | false => exact .inl (h.again p item hhead htrack)
    | true => exact .inr (hlower htrack)

theorem watch (h : Outbound config c) {job : Nat} {a : String}
    (hjob : c.jobs job = some (.drainSend a p item)) (htracks : tracks c item = true) :
    Outbound config (watched (c.setJob job none) a p item.frame) := by
  simp only [tracks, Bool.and_eq_true] at htracks
  obtain ⟨⟨htrack, hretryable⟩, -⟩ := htracks
  obtain ⟨hhanded, huntouched⟩ := h.flying job a p item hjob htrack
  set w := watched (c.setJob job none) a p item.frame with hw
  have hrecords : ∀ q, q ≠ p → w.records q = c.records q := fun q hq =>
    update_of_ne hq _ _
  have hqueue : ∀ q, (w.records q).outboundQueue = (c.records q).outboundQueue := by
    intro q
    obtain rfl | hq := eq_or_ne q p
    · simp only [hw, watched, armAckRetry, Core.addTimer, Core.setTimer, Core.modifyPending,
        Core.modifyRecord_records_self]
      rfl
    · rw [hrecords q hq]
  have hacks : ∀ q id, (w.records q).pendingAcks.get id =
      if q = p ∧ id = item.frame.messageId then some c.nextPending
      else (c.records q).pendingAcks.get id := by
    intro q id
    obtain rfl | hq := eq_or_ne q p
    · simp only [hw, watched, armAckRetry, Core.addTimer, Core.setTimer, Core.modifyPending,
        Core.modifyRecord_records_self, OrderedMap.get_set, true_and]
      rfl
    · rw [hrecords q hq, if_neg fun hand => hq hand.1]
  have hold : ∀ i, i < c.nextPending → w.pendings i = c.pendings i := by
    intro i hi
    have hne : i ≠ c.nextPending := Nat.ne_of_lt hi
    exact (update_of_ne hne _ _).trans (update_of_ne hne _ _)
  have hnew : w.pendings c.nextPending =
      { frame := item.frame, lastSentAtMs := c.now, timer := some c.nextTimer } := by
    simp only [hw, watched, armAckRetry, Core.addTimer, Core.setTimer, Core.modifyPending,
      Core.modifyRecord, Core.setJob, update_self]
  have htimers : ∀ t b q i, w.timers t = some (.ackRetry b q i) →
      (t = c.nextTimer ∧ q = p ∧ i = c.nextPending) ∨ c.timers t = some (.ackRetry b q i) := by
    intro t b q i ht
    obtain rfl | hne := eq_or_ne t c.nextTimer
    · have hself : w.timers c.nextTimer = some (.ackRetry a p c.nextPending) :=
        update_self _ _ _
      obtain ⟨-, rfl, rfl⟩ := TimerTask.ackRetry.inj (some.inj (hself.symm.trans ht))
      exact .inl ⟨rfl, rfl, rfl⟩
    · exact .inr ((update_of_ne hne _ _).symm.trans ht)
  have hjobs : ∀ j b q other, w.jobs j = some (.drainSend b q other) →
      j ≠ job ∧ c.jobs j = some (.drainSend b q other) := by
    intro j b q other hj
    obtain rfl | hne := eq_or_ne j job
    · have hself : w.jobs j = none := update_self _ _ _
      cases hself.symm.trans hj
    · exact ⟨hne, (update_of_ne hne _ _).symm.trans hj⟩
  have hrecord : Unsent c (c.modifyRecord p fun r =>
      { r with pendingAcks := r.pendingAcks.set item.frame.messageId c.nextPending }) :=
    .modifyRecord c p rfl rfl
  have hids : ∀ q id, (q = p → id ≠ item.frame.messageId) → Untouched c q id →
      Untouched w q id := by
    refine fun q id hne u => ⟨u.retries, u.exhausted, ?_, fun t b i ht => ?_⟩
    · rw [hacks, if_neg fun hand => hne hand.1 hand.2]
      exact u.pending
    · obtain ⟨-, rfl, rfl⟩ | ht := htimers t b q i ht
      · rw [hnew]
        exact (hne rfl).symm
      · rw [hold i (h.timers t b q i ht).old]
        exact u.timers t b i ht
  refine
    { h with
      numbering := h.numbering.of_unsent { hrecord with }
      queued := fun q other hitem => h.queued q other (hqueue q ▸ hitem)
      again := fun q other hitem htrack => h.again q other (hqueue q ▸ hitem) htrack
      first := fun q other hitem htrack => ?_
      queueOrder := fun q => by rw [hqueue]; exact h.queueOrder q
      flying := fun j b q other hj hother => ?_
      flight := fun j j' b b' q other other' hj hj' =>
        h.flight j j' b b' q other other' (hjobs j b q other hj).2 (hjobs j' b' q other' hj').2
      pending := fun q id i hi => ?_
      owner := fun q q' id id' i hi hi' => ?_
      timers := fun t b q i ht => ?_
      copies := fun q id => by rw [waiting, hqueue]; exact h.copies q id }
  · obtain ⟨hu, hbelow⟩ := h.first q other (hqueue q ▸ hitem) htrack
    refine ⟨hids q _ ?_ hu, hbelow⟩
    rintro rfl hid
    have hlt := hbelow item.frame hhanded
    have heq := h.id_sequence (h.queued q other (hqueue q ▸ hitem)) (h.genuine q _ hhanded) hid
    omega
  · obtain ⟨hne, hflight⟩ := hjobs j b q other hj
    obtain ⟨hother', hu⟩ := h.flying j b q other hflight hother
    refine ⟨hother', hids q _ ?_ hu⟩
    rintro rfl hid
    have heq := h.id_sequence (h.genuine q _ hother') (h.genuine q _ hhanded) hid
    exact hne (h.flight j job b a q other item hflight hjob hother htrack heq)
  · rw [hacks] at hi
    split at hi
    · rename_i hand
      obtain ⟨rfl, rfl⟩ := hand
      cases hi
      refine ⟨Nat.lt_succ_self _, by rw [hnew], by rw [hnew]; exact hhanded, ?_⟩
      rw [hnew]
      exact count_eq_zero.mpr huntouched.retries
    · have hpending := h.pending q id i hi
      have hsame := hold i hpending.old
      refine ⟨Nat.lt_succ_of_lt hpending.old, ?_, ?_, ?_⟩
      · rw [hsame, hpending.id_eq]
      · rw [hsame]
        exact hpending.handed
      · rw [hsame]
        exact hpending.attempts
  · rw [hacks] at hi hi'
    split at hi
    · rename_i hand
      split at hi'
      · rename_i hand'
        exact hand.1.trans hand'.1.symm
      · have hlt := (h.pending q' id' i hi').old
        rw [← some.inj hi] at hlt
        exact absurd hlt (Nat.lt_irrefl _)
    · split at hi'
      · have hlt := (h.pending q id i hi).old
        rw [← some.inj hi'] at hlt
        exact absurd hlt (Nat.lt_irrefl _)
      · exact h.owner q q' id id' i hi hi'
  · obtain ⟨rfl, rfl, rfl⟩ | hset := htimers t b q i ht
    · refine ⟨Nat.lt_succ_self _, by rw [hnew], by rw [hnew]; exact hhanded, by rw [hnew]; exact hretryable,
        fun i' hi' => ?_, by rw [hnew]; exact huntouched.exhausted⟩
      rw [hnew, hacks, if_pos ⟨rfl, rfl⟩] at hi'
      exact (some.inj hi').symm
    · have harmed := h.timers t b q i hset
      have hsame := hold i harmed.old
      refine ⟨Nat.lt_succ_of_lt harmed.old, ?_, ?_, ?_, ?_, ?_⟩
      · rw [hsame, harmed.timer]
      · rw [hsame]
        exact harmed.handed
      · rw [hsame]
        exact harmed.retryable
      · intro i' hi'
        rw [hsame, hacks] at hi'
        split at hi'
        · rename_i hand
          obtain ⟨rfl, hid⟩ := hand
          exact absurd hid (huntouched.timers t b i hset)
        · exact harmed.pending i' hi'
      · rw [hsame]
        exact harmed.exhausted

end Outbound

end ActorWeb.TransportOutbound
