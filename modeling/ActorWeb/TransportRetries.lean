import ActorWeb.TransportOutbound

/-! How often a frame is handed to its link, and in which order frames come first. -/

namespace ActorWeb.TransportOutbound

open Function

open Option List TransportContract TransportCore TransportQuiet TransportMoves TransportNumbering
open TransportTicks TransportTransmissions Trace

namespace Outbound

variable {c c' : Core} {config : Config} {p : Nat} {frame : RuntimeTransportFrame}

variable {t i : Nat}

theorem arm (h : Outbound config c) (harmed : Armed c t p i) (hnone : c.timers t = none)
    (hget : (c.records p).pendingAcks.get (c.pendings i).frame.messageId = some i) (a : String) :
    Outbound config (armAckRetry c a p i) := by
  set u := armAckRetry c a p i
  have hself : u.pendings i = { c.pendings i with timer := some c.nextTimer } :=
    update_self _ _ _
  have hother : ∀ j, j ≠ i → u.pendings j = c.pendings j := fun j hj =>
    update_of_ne hj _ _
  have hframe : ∀ j, (u.pendings j).frame = (c.pendings j).frame := by
    intro j
    obtain rfl | hj := eq_or_ne j i
    · rw [hself]
    · rw [hother j hj]
  have hattempts : ∀ j, (u.pendings j).attempts = (c.pendings j).attempts := by
    intro j
    obtain rfl | hj := eq_or_ne j i
    · rw [hself]
    · rw [hother j hj]
  -- the fired timer was the only one of the entry
  have htimers : ∀ t' b q j, u.timers t' = some (.ackRetry b q j) →
      (t' = c.nextTimer ∧ q = p ∧ j = i) ∨ j ≠ i ∧ c.timers t' = some (.ackRetry b q j) := by
    intro t' b q j ht
    obtain rfl | hne := eq_or_ne t' c.nextTimer
    · have hnew : u.timers c.nextTimer = some (.ackRetry a p i) := update_self _ _ _
      obtain ⟨-, rfl, rfl⟩ := TimerTask.ackRetry.inj (some.inj (hnew.symm.trans ht))
      exact .inl ⟨rfl, rfl, rfl⟩
    · have hset : c.timers t' = some (.ackRetry b q j) :=
        (update_of_ne hne _ _).symm.trans ht
      refine .inr ⟨?_, hset⟩
      rintro rfl
      have hsame := harmed.timer.symm.trans (h.timers t' b q j hset).timer
      rw [← some.inj hsame, hnone] at hset
      cases hset
  have huntouched : ∀ q id, Untouched c q id → Untouched u q id := by
    refine fun q id hu => ⟨hu.retries, hu.exhausted, hu.pending, fun t' b j ht => ?_⟩
    rw [hframe]
    obtain ⟨-, rfl, rfl⟩ | ⟨-, hset⟩ := htimers t' b q j ht
    · rintro rfl
      cases hu.pending.symm.trans hget
    · exact hu.timers t' b j hset
  refine
    { h with
      numbering := h.numbering.of_unsent { Unsent.refl c with }
      first := fun q item hitem htrack =>
        ⟨huntouched q _ (h.first q item hitem htrack).1, (h.first q item hitem htrack).2⟩
      flying := fun j b q item hj htrack =>
        ⟨(h.flying j b q item hj htrack).1, huntouched q _ (h.flying j b q item hj htrack).2⟩
      pending := fun q id j hj => ?_
      timers := fun t' b q j ht => ?_ }
  · have hpending := h.pending q id j hj
    refine ⟨hpending.old, ?_, ?_, ?_⟩
    · rw [hframe, hpending.id_eq]
    · rw [hframe]
      exact hpending.handed
    · rw [hattempts]
      exact hpending.attempts
  · obtain ⟨rfl, rfl, rfl⟩ | ⟨hj, hset⟩ := htimers t' b q j ht
    · have htimer : (u.pendings j).timer = some c.nextTimer := by rw [hself]
      refine ⟨harmed.old, htimer, ?_, ?_, ?_, ?_⟩ <;> rw [hframe]
      · exact harmed.handed
      · exact harmed.retryable
      · exact harmed.pending
      · exact harmed.exhausted
    · have hthere := h.timers t' b q j hset
      refine ⟨hthere.old, ?_, ?_, ?_, ?_, ?_⟩ <;> rw [hother j hj]
      · exact hthere.timer
      · exact hthere.handed
      · exact hthere.retryable
      · exact hthere.pending
      · exact hthere.exhausted

def counted (c : Core) (p i : Nat) : Core :=
  (c.modifyPending i fun pending =>
      { pending with attempts := pending.attempts + 1, lastSentAtMs := c.now }).emit
    (.retryScheduled p (c.pendings i).frame.messageId)

theorem retries_counted (c : Core) (p i q : Nat) (id : String) : retries q id (counted c p i).log =
      retries q id c.log + if q = p ∧ (c.pendings i).frame.messageId = id then 1 else 0 := by
  have hlog : (counted c p i).log =
      c.log ++ [.retryScheduled p (c.pendings i).frame.messageId] := rfl
  rw [hlog, retries, retries, count_append, count_singleton]
  simp only [beq_iff_eq, Event.retryScheduled.injEq, eq_comm (a := p)]

theorem counted_frame (c : Core) (p i j : Nat) :
    ((counted c p i).pendings j).frame = (c.pendings j).frame := by
  obtain rfl | hj := eq_or_ne j i
  · simp only [counted, Core.emit, Core.modifyPending, update_self]
  · simp only [counted, Core.emit, Core.modifyPending, update_of_ne hj]

theorem handed_counted (c : Core) (p i q : Nat) (id : String) :
    handed q id (counted c p i).log = handed q id c.log := by
  have hlog : (counted c p i).log =
      c.log ++ [.retryScheduled p (c.pendings i).frame.messageId] := rfl
  rw [hlog, handed, countP_append]
  rfl

theorem count (h : Outbound config c) (harmed : Armed c t p i)
    (hget : (c.records p).pendingAcks.get (c.pendings i).frame.messageId = some i)
    (hattempts : ((c.pendings i).attempts : Int) < c.config.maxAckRetries) :
    Outbound config (counted c p i) ∧ Armed (counted c p i) t p i := by
  set u := counted c p i with hu
  have hself : u.pendings i =
      { c.pendings i with attempts := (c.pendings i).attempts + 1, lastSentAtMs := c.now } :=
    update_self _ _ _
  have hother : ∀ j, j ≠ i → u.pendings j = c.pendings j := fun j hj =>
    update_of_ne hj _ _
  have hframe : ∀ j, (u.pendings j).frame = (c.pendings j).frame := counted_frame c p i
  have htimer : ∀ j, (u.pendings j).timer = (c.pendings j).timer := by
    intro j
    obtain rfl | hj := eq_or_ne j i
    · rw [hself]
    · rw [hother j hj]
  have hlog : u.log = c.log ++ [.retryScheduled p (c.pendings i).frame.messageId] := rfl
  have hgrows : ∀ {e : Event}, e ∈ c.log → e ∈ u.log := fun he => mem_append_left _ he
  have hnot : ∀ {e : Event}, e ∈ u.log →
      e ≠ .retryScheduled p (c.pendings i).frame.messageId → e ∈ c.log := fun he hne =>
    (mem_append.mp he).resolve_right fun hlast => hne (mem_singleton.mp hlast)
  have hkept : ∀ {t' q j : Nat}, Armed c t' q j → Armed u t' q j := by
    intro t' q j hthere
    refine ⟨hthere.old, (htimer j).trans hthere.timer, ?_, ?_, ?_, ?_⟩ <;> rw [hframe]
    · exact hgrows hthere.handed
    · exact hthere.retryable
    · exact hthere.pending
    · exact fun hex => hthere.exhausted (hnot hex (by simp))
  have huntouched : ∀ q id, Untouched c q id → Untouched u q id := by
    refine fun q id hn => ⟨fun hr => ?_, fun hex => hn.exhausted (hnot hex (by simp)), hn.pending,
      fun t' b j ht => ?_⟩
    · obtain hold | hlast := mem_append.mp hr
      · exact hn.retries hold
      · obtain ⟨rfl, rfl⟩ := Event.retryScheduled.inj (mem_singleton.mp hlast)
        cases hn.pending.symm.trans hget
    · rw [hframe]
      exact hn.timers t' b j ht
  have hsends : sends u.log = sends c.log := by
    rw [hlog, sends_append]
    exact append_nil _
  have hcount := h.pending p _ i hget
  refine ⟨?_, hkept harmed⟩
  refine
    { h with
      numbering := h.numbering.of_unsent ((Unsent.refl c).trans { Unsent.emit c (by simp) with })
      increasing := by rw [hsends]; exact h.increasing
      genuine := fun q f hf => by rw [hsends]; exact h.genuine q f (hnot hf (by simp))
      queued := fun q item hitem => by rw [hsends]; exact h.queued q item hitem
      again := fun q item hitem htrack => hgrows (h.again q item hitem htrack)
      first := fun q item hitem htrack => ⟨huntouched q _ (h.first q item hitem htrack).1,
        fun g hg => (h.first q item hitem htrack).2 g (hnot hg (by simp))⟩
      flying := fun j b q item hj htrack => ⟨hgrows (h.flying j b q item hj htrack).1,
        huntouched q _ (h.flying j b q item hj htrack).2⟩
      pending := fun q id j hj => ?_
      timers := fun t' b q j ht => hkept (h.timers t' b q j ht)
      cause := fun q id hr => ?_
      copies := fun q id => ?_
      bound := fun q id => ?_
      orderly := ?_ }
  · have hpending := h.pending q id j hj
    refine ⟨hpending.old, (congrArg _ (hframe j)).trans hpending.id_eq, ?_, ?_⟩
    · rw [hframe]
      exact hgrows hpending.handed
    · rw [hu, retries_counted, hpending.attempts, ← hu]
      obtain rfl | hne := eq_or_ne j i
      · rw [hself, if_pos ⟨h.owner q p id _ j hj hget, hpending.id_eq⟩]
      · rw [hother j hne, if_neg, Nat.add_zero]
        rintro ⟨rfl, rfl⟩
        exact hne (some.inj (hj.symm.trans hget))
  · obtain hold | hold := hr
    · obtain hold | hlast := mem_append.mp hold
      · obtain ⟨f, hf, hid⟩ := h.cause q id (.inl hold)
        exact ⟨f, hgrows hf, hid⟩
      · obtain ⟨rfl, rfl⟩ := Event.retryScheduled.inj (mem_singleton.mp hlast)
        exact ⟨_, hgrows harmed.handed, rfl, harmed.retryable⟩
    · obtain ⟨f, hf, hid⟩ := h.cause q id (.inr (hnot hold (by simp)))
      exact ⟨f, hgrows hf, hid⟩
  · have hold := h.copies q id
    rw [hu, handed_counted, retries_counted]
    exact hold.trans (Nat.add_le_add_left (Nat.le_add_right _ _) 1)
  · have hold := h.bound q id
    rw [hu, retries_counted]
    split
    · rename_i hand
      obtain ⟨rfl, rfl⟩ := hand
      have hattempt := hcount.attempts
      rw [h.sameConfig] at hattempts
      omega
    · exact hold
  · rw [hlog]
    exact disciplined_concat.mpr ⟨h.orderly, harmed.exhausted⟩

theorem giveUp (h : Outbound config c) (harmed : Armed c t p i) (hnone : c.timers t = none)
    (hget : (c.records p).pendingAcks.get (c.pendings i).frame.messageId = some i) :
    Outbound config (gaveUp c p i) := by
  set u := gaveUp c p i
  have hlog : u.log = c.log ++ [.retryExhausted p (c.pendings i).frame.messageId] := rfl
  have hgrows : ∀ {e : Event}, e ∈ c.log → e ∈ u.log := fun he => mem_append_left _ he
  have hnot : ∀ {e : Event}, e ∈ u.log →
      e ≠ .retryExhausted p (c.pendings i).frame.messageId → e ∈ c.log := fun he hne =>
    (mem_append.mp he).resolve_right fun hlast => hne (mem_singleton.mp hlast)
  have hother : ∀ q, q ≠ p → u.records q = c.records q := fun q hq =>
    update_of_ne hq _ _
  have hself : u.records p = { c.records p with
      pendingAcks := (c.records p).pendingAcks.delete (c.pendings i).frame.messageId } :=
    update_self _ _ _
  have hqueue : ∀ q, (u.records q).outboundQueue = (c.records q).outboundQueue := by
    intro q
    obtain rfl | hq := eq_or_ne q p
    · rw [hself]
    · rw [hother q hq]
  have hacks : ∀ q id j, (u.records q).pendingAcks.get id = some j →
      (c.records q).pendingAcks.get id = some j := by
    intro q id j hj
    obtain rfl | hq := eq_or_ne q p
    · rw [hself] at hj
      simp only [OrderedMap.get_delete] at hj
      split at hj
      · cases hj
      · exact hj
    · rwa [hother q hq] at hj
  have huntouched : ∀ q id, Untouched c q id → Untouched u q id := by
    refine fun q id hn => ⟨fun hr => hn.retries (hnot hr (by simp)), fun hex => ?_, ?_, hn.timers⟩
    · obtain hold | hlast := mem_append.mp hex
      · exact hn.exhausted hold
      · obtain ⟨rfl, rfl⟩ := Event.retryExhausted.inj (mem_singleton.mp hlast)
        cases hn.pending.symm.trans hget
    · refine eq_none_iff_forall_ne_some.mpr fun j hj => ?_
      cases hn.pending.symm.trans (hacks q id j hj)
  have hsends : sends u.log = sends c.log := by
    rw [hlog, sends_append]
    exact append_nil _
  have hretries : ∀ q id, retries q id u.log = retries q id c.log := by
    intro q id
    rw [hlog, retries, count_append, count_singleton]
    exact Nat.add_zero _
  have hhanded : ∀ q id, handed q id u.log =
      handed q id c.log := by
    intro q id
    rw [hlog, handed, countP_append]
    rfl
  have hrecord : Unsent c (c.modifyRecord p fun r =>
      { r with pendingAcks := r.pendingAcks.delete (c.pendings i).frame.messageId }) :=
    .modifyRecord c p rfl rfl
  refine
    { sameConfig := h.sameConfig
      numbering := h.numbering.of_unsent (hrecord.trans (.emit _ (by simp)))
      increasing := by rw [hsends]; exact h.increasing
      genuine := fun q f hf => by rw [hsends]; exact h.genuine q f (hnot hf (by simp))
      queued := fun q item hitem => by rw [hsends]; exact h.queued q item (hqueue q ▸ hitem)
      again := fun q item hitem htrack => hgrows (h.again q item (hqueue q ▸ hitem) htrack)
      first := fun q item hitem htrack => ?_
      queueOrder := fun q => by rw [hqueue]; exact h.queueOrder q
      flying := fun j b q item hj htrack => ⟨hgrows (h.flying j b q item hj htrack).1,
        huntouched q _ (h.flying j b q item hj htrack).2⟩
      flight := h.flight
      pending := fun q id j hj => ?_
      owner := fun q q' id id' j hj hj' =>
        h.owner q q' id id' j (hacks q id j hj) (hacks q' id' j hj')
      timers := fun t' b q j ht => ?_
      cause := fun q id hr => ?_
      copies := fun q id => by rw [hhanded, hretries, waiting, hqueue]; exact h.copies q id
      bound := fun q id => by rw [hretries]; exact h.bound q id
      orderly := ?_ }
  · obtain ⟨hn, hbelow⟩ := h.first q item (hqueue q ▸ hitem) htrack
    exact ⟨huntouched q _ hn, fun g hg => hbelow g (hnot hg (by simp))⟩
  · have hpending := h.pending q id j (hacks q id j hj)
    exact ⟨hpending.old, hpending.id_eq, hgrows hpending.handed,
      (hretries q id).trans hpending.attempts⟩
  · have hthere := h.timers t' b q j ht
    refine ⟨hthere.old, hthere.timer, hgrows hthere.handed, hthere.retryable,
      fun i' hi' => hthere.pending i' (hacks q _ i' hi'), fun hex => ?_⟩
    obtain hold | hlast := mem_append.mp hex
    · exact hthere.exhausted hold
    · -- the timer of the entry given up would be the one that has fired
      obtain ⟨rfl, hid⟩ := Event.retryExhausted.inj (mem_singleton.mp hlast)
      rw [← hid] at hget
      obtain rfl := hthere.pending i hget
      have hsame := harmed.timer.symm.trans hthere.timer
      have hset : c.timers t' = some (.ackRetry b q i) := ht
      rw [← some.inj hsame, hnone] at hset
      cases hset
  · obtain hold | hold := hr
    · obtain ⟨f, hf, hid⟩ := h.cause q id (.inl (hnot hold (by simp)))
      exact ⟨f, hgrows hf, hid⟩
    · obtain hold | hlast := mem_append.mp hold
      · obtain ⟨f, hf, hid⟩ := h.cause q id (.inr hold)
        exact ⟨f, hgrows hf, hid⟩
      · obtain ⟨rfl, rfl⟩ := Event.retryExhausted.inj (mem_singleton.mp hlast)
        exact ⟨_, hgrows harmed.handed, rfl, harmed.retryable⟩
  · rw [hlog]
    exact disciplined_concat.mpr ⟨h.orderly, harmed.exhausted⟩

theorem clearPendingAck_lesser (h : Outbound config c) (a : String) (p : Nat) (messageId : String) :
    Lesser c (clearPendingAck c a p messageId) := by
  unfold clearPendingAck
  split
  · exact Lesser.refl c
  · rename_i i hget
    have hcleared := Lesser.of_ticks (ticks_bookkept.of_clearTimer c (c.pendings i).timer)
    have hfree : ∀ t b q,
        (c.clearTimer (c.pendings i).timer).timers t ≠ some (.ackRetry b q i) := by
      intro t b q ht
      have harmed := h.timers t b q i (hcleared.timers t b q i ht).1
      have hcleared : (c.clearTimer (some t)).timers t = none := update_self _ _ _
      rw [harmed.timer, hcleared] at ht
      cases ht
    have hforgotten := hcleared.trans (Lesser.forgetTimer _ hfree)
    have hdeleted := hforgotten.trans (Lesser.modifyRecord _ p
      (f := fun r => { r with pendingAcks := r.pendingAcks.delete messageId })
        (.inl rfl) fun id j hj => by
        rw [OrderedMap.get_delete] at hj
        split at hj
        · cases hj
        · exact hj)
    exact hdeleted.trans (Lesser.of_ticks (count_ticks _ a (by decide)))

variable {frames : List RuntimeTransportFrame}

theorem round (h : Outbound config c) (hround : Round frames c c') : Outbound config c' := by
  cases hround with
  | tick htick => exact h.of_unsent (.of_tick htick) (unsent_of_tick htick)
  | register link identity =>
    exact h.of_lesser (.register c link identity) (h.numbering.register link identity)
      h.increasing (List.Subset.refl _)
  | arrive a p frame hp hframe => exact h.of_unsent (.claim c a p frame) (.claim c a p frame)
  | ack a p messageId =>
    exact h.of_unsent (h.clearPendingAck_lesser a p messageId)
      (.of_quiet (clearPendingAck_quiet c a p messageId))
  | pop a p item rest hqueue => exact h.pop hqueue a

theorem rounds (h : Outbound config c) (hrounds : Rounds frames c c') : Outbound config c' := by
  induction hrounds with
  | refl => exact h
  | tail _ hlast ih => exact ih.round hlast

theorem ticks (h : Outbound config c) (hticks : Ticks c c') : Outbound config c' :=
  have hrounds : Rounds [] c c' := .of_ticks hticks
  h.rounds hrounds

theorem queueFirst (h : Outbound config c) (r : Registry c) {destination : String}
    {message : ActorMessage} (hnext : nextFrame c destination message = some (p, frame)) :
    Outbound config (pushed (numbered c p frame) p ⟨frame, true, none⟩) := by
  have hfresh := h.fresh hnext
  have hlesser : Lesser c (numbered c p frame) :=
    (Lesser.modifyRecord c p (.inl rfl) fun _ _ => id).trans (.emit _ trivial)
  have hsends : sends (numbered c p frame).log = sends c.log ++ [(p, frame)] :=
    sends_append c.log [.numbered p frame]
  refine (h.number r hnext).push ?_ (fun hfalse => by cases hfalse) (fun _ => ⟨?_, ?_, ?_⟩) ?_
  · rw [hsends]
    exact mem_append_right _ (mem_singleton_self _)
  · exact untouched_of_lesser hlesser (h.untouched_of_fresh fun f hf => (hfresh f hf).2)
  · exact fun g hg => (hfresh g (h.genuine p g (hlesser.linkSend_mem.mp hg))).1
  · exact fun other hother => (hfresh _ (h.queued p other (hlesser.mem_queue hother))).1
  · have hnone := h.copies_of_fresh fun f hf => (hfresh f hf).2
    have hwaiting := hlesser.waiting_le p frame.messageId
    have hhanded := hlesser.handed_eq p frame.messageId
    change handed p frame.messageId (numbered c p frame).log +
      waiting (numbered c p frame) p frame.messageId + 1 ≤ _
    omega

theorem queueAgain (h : Outbound config c) {a : String} (ht : c.timers t = some (.ackRetry a p i))
    (hget : (c.records p).pendingAcks.get (c.pendings i).frame.messageId = some i)
    (hattempts : ((c.pendings i).attempts : Int) < c.config.maxAckRetries) :
    Outbound config (retried (c.setTimer t none) a p i) ∧
      Outbound config (pushed (retried (c.setTimer t none) a p i) p
        ⟨(c.pendings i).frame, false, some a⟩) := by
  have harmed := h.timers t a p i ht
  have hcleared : Outbound config (c.setTimer t none) :=
    h.of_unsent (.setTimer c t (by simp)) { Unsent.refl c with }
  have hnone : (c.setTimer t none).timers t = none := update_self _ _ _
  obtain ⟨hcounted, hstill⟩ := hcleared.count (t := t)
    ⟨harmed.old, harmed.timer, harmed.handed, harmed.retryable, harmed.pending, harmed.exhausted⟩
    hget hattempts
  have hframe := counted_frame (c.setTimer t none) p i i
  have hretried : Outbound config (retried (c.setTimer t none) a p i) := by
    refine hcounted.arm hstill hnone ?_ a
    rw [hframe]
    exact hget
  refine ⟨hretried, hretried.push ?_ (fun _ => ?_) (fun htrue => by cases htrue) ?_⟩
  · exact hretried.genuine p _ (mem_append_left _ harmed.handed)
  · exact mem_append_left _ harmed.handed
  · have hold := h.copies p (c.pendings i).frame.messageId
    have hretries := retries_counted (c.setTimer t none) p i p (c.pendings i).frame.messageId
    rw [if_pos ⟨rfl, rfl⟩] at hretries
    have hhanded := handed_counted (c.setTimer t none) p i p (c.pendings i).frame.messageId
    have hlog : (retried (c.setTimer t none) a p i).log = (counted (c.setTimer t none) p i).log :=
      rfl
    have hqueue : ((retried (c.setTimer t none) a p i).records p).outboundQueue =
        (c.records p).outboundQueue := rfl
    rw [hlog, hhanded, hretries, waiting, hqueue]
    exact Nat.add_le_add_right hold 1

theorem timer (h : Outbound config c) {t : Nat} (hstep : step c (.timer t) = some c') :
    Outbound config c' := by
  obtain hrounds | ⟨a, p, i, ht, hhas, hfires⟩ := timer_turn [] hstep
  · exact h.rounds hrounds
  · have harmed := h.timers t a p i ht
    have hget : (c.records p).pendingAcks.get (c.pendings i).frame.messageId = some i := by
      obtain ⟨i', hi'⟩ := isSome_iff_exists.mp hhas
      exact harmed.pending i' hi' ▸ hi'
    have hcleared : Outbound config (c.setTimer t none) :=
      h.of_unsent (.setTimer c t (by simp)) { Unsent.refl c with }
    have hnone : (c.setTimer t none).timers t = none := update_self _ _ _
    have hstill : Armed (c.setTimer t none) t p i :=
      ⟨harmed.old, harmed.timer, harmed.handed, harmed.retryable, harmed.pending, harmed.exhausted⟩
    obtain hrounds | hrounds | ⟨hattempts, hrounds | hrounds⟩ := hfires
    · exact (hcleared.giveUp hstill hnone hget).rounds hrounds
    · exact (hcleared.arm hstill hnone hget a).rounds hrounds
    · exact (h.queueAgain ht hget hattempts).1.rounds hrounds
    · exact (h.queueAgain ht hget hattempts).2.rounds hrounds

theorem step (h : Outbound config c) (r : Registry c) {a : Action} (hstep : step c a = some c') :
    Outbound config c' := by
  cases a with
  | send destination message =>
    obtain ⟨-, hrounds⟩ | ⟨p, frame, hnext, ⟨-, hrounds⟩ | ⟨-, hrounds⟩⟩ :=
      send_turn [] hstep
    · exact h.rounds hrounds
    · exact (h.number r hnext).rounds hrounds
    · exact (h.queueFirst r hnext).rounds hrounds
  | sendSettled job ok =>
    obtain hrounds | ⟨a, p, item, hjob, htracks, hrounds⟩ := sendSettled_turn [] hstep
    · exact h.rounds hrounds
    · exact (h.watch hjob htracks).rounds hrounds
  | providerAnswers job answer =>
    obtain ⟨a, p, frame, -, rfl⟩ := providerAnswers_cases hstep
    have hdropped : Outbound config (c.setJob job none) :=
      h.of_unsent (.dropJob c job) { Unsent.refl c with }
    exact hdropped.of_unsent (.claimAnswered _ job a p frame answer)
      (.claimAnswered _ job a p frame answer)
  | microtask =>
    simp only [TransportCore.step] at hstep
    split at hstep
    case h_1 m rest hm =>
      cases hstep
      have hpopped : Outbound config { c with microtasks := rest } :=
        h.of_unsent { Lesser.refl c with } { Unsent.refl c with }
      cases m with
      | claimed job a p frame outcome =>
        exact hpopped.of_unsent (.claimResumed _ job a p frame outcome)
          (.claimResumed _ job a p frame outcome)
      | retryRejected a p =>
        exact hpopped.ticks (ticks_closes.of_disconnect _ a)
    case h_2 => cases hstep
  | timer t => exact h.timer hstep
  | connect | dialSettled | authSettled | acceptInbound | rejectInbound | disconnect | flushPeer
  | linkFact | linkAlive | linkOpens | clock | stop =>
    exact h.rounds (step_rounds (by trivial) hstep)

theorem retries_eq_zero (h : Outbound config c) (hf : (p, frame) ∈ sends c.log)
    (hretryable : isRetryableRuntimeFrame frame = false) : retries p frame.messageId c.log = 0 := by
  refine count_eq_zero.mpr fun hr => ?_
  obtain ⟨g, hg, hid, hg'⟩ := h.cause p frame.messageId (.inl hr)
  rw [h.same_frame (h.genuine p g hg) hf hid, hretryable] at hg'
  cases hg'

end Outbound

end ActorWeb.TransportOutbound

namespace ActorWeb.TransportRetries

open TransportContract TransportCore TransportMoves TransportNumbering
open TransportTransmissions TransportOutbound Trace Transition

theorem count_linkSend_le (p : Nat) (f : RuntimeTransportFrame) (log : List Event) :
    log.count (.linkSend p f) ≤ handed p f.messageId log := by
  refine List.countP_mono_left fun e _ he => ?_
  rw [beq_iff_eq] at he
  subst he
  simp

/-- What holds of the frames that a node sends, over the lives of its records. -/
structure Bounded (config : Config) (c : Core) : Prop where
  transmissions : ∀ p f, .numbered p f ∈ c.log →
    (c.log.count (.linkSend p f) : Int) ≤ 1 + max 0 config.maxAckRetries
  once : ∀ p f, .numbered p f ∈ c.log → isRetryableRuntimeFrame f = false →
    c.log.count (.linkSend p f) ≤ 1
  exhausted : ∀ p id, .retryExhausted p id ∈ c.log →
    ∀ t a i, c.timers t = some (.ackRetry a p i) → (c.pendings i).frame.messageId ≠ id
  orderly : Disciplined Orderly c.log

theorem bounded_of_outbound {config : Config} {c : Core} (h : Outbound config c) :
    Bounded config c where
  transmissions p f _ := by
    have hcount := count_linkSend_le p f c.log
    have hcopies := h.copies p f.messageId
    have hbound := h.bound p f.messageId
    omega
  once p f hf hretryable := by
    have hcount := count_linkSend_le p f c.log
    have hcopies := h.copies p f.messageId
    rw [h.retries_eq_zero (mem_sends.mpr hf) hretryable] at hcopies
    omega
  exhausted p id hex t a i ht hid := (h.timers t a p i ht).exhausted (hid ▸ hex)
  orderly := h.orderly

/-- Whatever happens to a node, it hands each frame over once and then at most as often as
it may retry, retries none that it gave up, and keeps first transmissions in order. -/
theorem retransmissions_bounded (config : Config) (actions : List Action) :
    Along step (fun _ _ c => Bounded config c) (create config) actions := by
  refine along_of_invariant (I := fun c => Outbound config c ∧ Registry c)
    (fun c a c' h hstep => ?_) (fun c a c' h hstep => ?_)
    ⟨.create config, registry_create config⟩ actions
  · exact ⟨h.1.step h.2 hstep, h.2.step hstep⟩
  · exact bounded_of_outbound (h.1.step h.2 hstep)

end ActorWeb.TransportRetries
