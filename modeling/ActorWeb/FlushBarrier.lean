import ActorWeb.ActorFlush

/-! What `flush()` promises when it resolves. -/

namespace ActorWeb.ActorFlush

open Option hiding all_eq_true any_eq_true mem_map

open List ActorSystem Supervision Transition

section Flushes

variable {s t : FlushSystem} {u w : System} {f : FlushCall} {ks : List Nat} {p : ActorAddress}

/-- What `processNextMessage` begins: invocations that hold what they took. -/
structure Begins (u w : System) (ks : List Nat) : Prop where
  mailboxes : w.mailboxes = u.mailboxes
  invocations : ∃ vs, w.invocations = u.invocations ++ vs ∧
    ∀ v ∈ vs, ∃ p m, v = ⟨.dequeued p m, none, .caller⟩
  fresh : ∀ i, i ∈ ks ↔ u.invocations.length ≤ i ∧ i < w.invocations.length

theorem Begins.refl (u : System) : Begins u u [] :=
  ⟨rfl, ⟨[], by simp, by simp⟩, fun i => by simp⟩

theorem Begins.trans {x : System} {js : List Nat} (h : Begins u w ks) (h' : Begins w x js) :
    Begins u x (ks ++ js) := by
  obtain ⟨vs, hvs, hall⟩ := h.invocations
  obtain ⟨vs', hvs', hall'⟩ := h'.invocations
  refine ⟨h'.mailboxes.trans h.mailboxes, ⟨vs ++ vs', ?_, ?_⟩, fun i => ?_⟩
  · rw [hvs', hvs, append_assoc]
  · exact fun v hv => (mem_append.mp hv).elim (hall v) (hall' v)
  · rw [mem_append, h.fresh, h'.fresh]
    have hle : u.invocations.length ≤ w.invocations.length := by
      rw [hvs, length_append]
      exact Nat.le_add_right _ _
    have hle' : w.invocations.length ≤ x.invocations.length := by
      rw [hvs', length_append]
      exact Nat.le_add_right _ _
    omega

theorem processNextMessage_begins (h : ActorSystem.step u (.processNextMessage p) = some w) :
    Begins u w [u.invocations.length] := by
  simp only [ActorSystem.step] at h
  split at h
  case h_1 => cases h
  case h_2 box m mailbox _ =>
    cases h
    refine ⟨rfl, ⟨[⟨.dequeued p m, none, .caller⟩], rfl, fun v hv => ?_⟩, fun i => ?_⟩
    · exact ⟨p, m, mem_singleton.mp hv⟩
    · simp only [System.invoke, System.perform, length_append, length_singleton,
        mem_singleton]
      omega

theorem processAll_begins (u : System) (addresses : List ActorAddress) :
    Begins u (processAll u addresses).1 (processAll u addresses).2 := by
  induction addresses generalizing u with
  | nil => exact .refl u
  | cons p rest ih =>
    rw [processAll]
    cases h : ActorSystem.step u (.processNextMessage p) with
    | none => exact ih u
    | some w => exact (processNextMessage_begins h).trans (ih w)

theorem processInTurn_begins (u : System) (f : FlushCall) (addresses : List ActorAddress) :
    ∃ ks, Begins u (processInTurn u f addresses).1 ks ∧
      (processInTurn u f addresses).2.deliveries = ks ++ f.deliveries ∧
        (processInTurn u f addresses).2.status = f.status := by
  cases addresses with
  | nil => exact ⟨[], .refl u, rfl, rfl⟩
  | cons p rest =>
    rw [processInTurn]
    cases h : ActorSystem.step u (.processNextMessage p) with
    | none => exact ⟨[], .refl u, rfl, rfl⟩
    | some w => exact ⟨[_], processNextMessage_begins h, rfl, rfl⟩

theorem proceed_begins (s : FlushSystem) (f : FlushCall) :
    ∃ ks, Begins s.system (proceed s f).1 ks ∧ (proceed s f).2.deliveries = ks ++ f.deliveries := by
  unfold proceed
  split
  · exact ⟨[], .refl _, rfl⟩
  split
  · exact ⟨[], .refl _, rfl⟩
  split
  · exact ⟨[], .refl _, rfl⟩
  unfold processOneRoundOfMessages
  split
  · exact ⟨_, processAll_begins _ _, rfl⟩
  · obtain ⟨ks, hbegins, hdeliveries, -⟩ := processInTurn_begins s.system
      { f with rounds := f.rounds + 1 } (busyPaths s)
    exact ⟨ks, hbegins, hdeliveries⟩

theorem resume_begins {r : System × FlushCall} (h : resume s f = some r) :
    ∃ ks, Begins s.system r.1 ks ∧ r.2.deliveries = ks ++ f.deliveries := by
  unfold resume at h
  split at h
  · cases h
  split at h
  · exact some.inj h ▸ ⟨[], .refl _, rfl⟩
  split at h
  case isFalse => cases h
  split at h
  · exact some.inj h ▸ proceed_begins s f
  · obtain ⟨ks, hbegins, hdeliveries, -⟩ := processInTurn_begins s.system f f.addresses
    exact some.inj h ▸ ⟨ks, hbegins, hdeliveries⟩

theorem proceed_resolved (hf : f.status = .running) (h : (proceed s f).2.status = .resolved) :
    hasQueuedMessages s = false ∧ (proceed s f).1 = s.system := by
  unfold proceed at h ⊢
  split at h
  case isTrue hempty => exact ⟨by simpa using hempty, by rw [if_pos hempty]⟩
  case isFalse =>
    exfalso
    split at h
    · cases h
    split at h
    · cases h
    unfold processOneRoundOfMessages at h
    split at h
    · rw [hf] at h
      cases h
    · obtain ⟨_, -, -, hstatus⟩ := processInTurn_begins s.system
        { f with rounds := f.rounds + 1 } (busyPaths s)
      rw [hstatus, hf] at h
      cases h

theorem resume_resolved {r : System × FlushCall} (h : resume s f = some r)
    (hr : r.2.status = .resolved) :
    hasQueuedMessages s = false ∧ r.1 = s.system ∧ f.addresses = [] ∧ r.2.deliveries = f.deliveries ∧
      ∀ i ∈ f.deliveries, hasReturned s.system false i = true := by
  unfold resume at h
  split at h
  case isTrue => cases h
  case isFalse hrunning =>
    have hrunning : f.status = .running := not_not.mp hrunning
    split at h
    case isTrue =>
      cases h
      cases hr
    case isFalse =>
      split at h
      case isFalse => cases h
      case isTrue hover =>
        split at h
        case isTrue haddresses =>
          cases h
          obtain ⟨hempty, hsame⟩ := proceed_resolved hrunning hr
          refine ⟨hempty, hsame, List.isEmpty_iff.mp haddresses, ?_, all_eq_true.mp hover⟩
          rw [proceed, hempty]
          rfl
        case isFalse =>
          cases h
          obtain ⟨_, -, -, hstatus⟩ := processInTurn_begins s.system f f.addresses
          rw [hstatus, hrunning] at hr
          cases hr

end Flushes

section Invariants

variable {s t : FlushSystem} {w : System} {f f' : FlushCall} {ks l : List Nat} {a : Action}

structure Apart (s : FlushSystem) (l : List Nat) : Prop where
  deliveries : ∀ f ∈ s.flushes, ∀ i ∈ f.deliveries, i ∉ l
  lt : ∀ i ∈ l, i < s.system.invocations.length

structure Sound (s : FlushSystem) : Prop where
  paths : ∀ p, (s.system.mailboxes p).isSome → p ∈ s.paths
  deliveries : ∀ f ∈ s.flushes, ∀ i ∈ f.deliveries, Delivery s.system i
  flushed : ∀ (i : Nat) v, s.system.invocations[i]? = some v → Flushed v →
    ∃ (j : Nat) (f : FlushCall), s.flushes[j]? = some f ∧ i ∈ f.deliveries
  apart : Apart s s.supervised

theorem start_sound (maxActors : Nat) (supervisors : List SupervisorGroupConfig)
    (overlapping : Bool) : Sound (start maxActors supervisors overlapping) where
  paths := fun _ h => by cases h
  deliveries := fun _ h => by cases h
  flushed := fun _ _ h => by cases h
  apart := ⟨fun _ h => (by cases h), fun _ h => (by cases h)⟩

/-- A step of a flush: it begins deliveries, and the other flushes stay. -/
structure Grows (s t : FlushSystem) (ks : List Nat) : Prop where
  begins : Begins s.system t.system ks
  paths : t.paths = s.paths
  thrown : t.thrown = s.thrown
  supervised : t.supervised = s.supervised
  old : ∀ f ∈ t.flushes, ∀ i ∈ f.deliveries, i ∈ ks ∨ ∃ f ∈ s.flushes, i ∈ f.deliveries
  kept : ∀ (j : Nat) f, s.flushes[j]? = some f →
    ∃ f', t.flushes[j]? = some f' ∧ ∀ i ∈ f.deliveries, i ∈ f'.deliveries
  new : ∀ i ∈ ks, ∃ (j : Nat) (f : FlushCall), t.flushes[j]? = some f ∧ i ∈ f.deliveries

theorem Grows.apart (h : Grows s t ks) (hs : Apart s l) : Apart t l where
  deliveries := by
    intro f hf i hi hil
    obtain hks | ⟨f', hf', hi'⟩ := h.old f hf i hi
    · exact absurd (hs.lt i hil) (Nat.not_lt.mpr ((h.begins.fresh i).mp hks).1)
    · exact hs.deliveries f' hf' i hi' hil
  lt := by
    intro i hi
    obtain ⟨vs, hvs, -⟩ := h.begins.invocations
    rw [hvs, length_append]
    exact Nat.lt_add_right _ (hs.lt i hi)

theorem Grows.sound (h : Grows s t ks) (hs : Sound s) : Sound t := by
  obtain ⟨vs, hvs, hnew⟩ := h.begins.invocations
  have hold : ∀ {i : Nat} {v : Invocation}, s.system.invocations[i]? = some v →
      t.system.invocations[i]? = some v := by
    intro i v hv
    rw [hvs, getElem?_append_left (List.getElem?_eq_some_iff.mp hv).1, hv]
  refine ⟨fun p hp => ?_, fun f hf i hi => ?_, fun i v hv hflushed => ?_, ?_⟩
  · rw [h.paths]
    exact hs.paths p (h.begins.mailboxes ▸ hp)
  · obtain hks | ⟨f', hf', hi'⟩ := h.old f hf i hi
    · obtain ⟨hle, hlt⟩ := (h.begins.fresh i).mp hks
      obtain ⟨v, hv⟩ : ∃ v, t.system.invocations[i]? = some v := ⟨_, getElem?_eq_getElem hlt⟩
      have hmem : v ∈ vs := by
        rw [hvs, getElem?_append_right hle] at hv
        exact mem_of_getElem? hv
      obtain ⟨p, m, rfl⟩ := hnew v hmem
      exact ⟨_, hv, rfl, rfl, .inl rfl⟩
    · obtain ⟨v, hv, hrest⟩ := hs.deliveries f' hf' i hi'
      exact ⟨v, hold hv, hrest⟩
  · by_cases hlt : i < s.system.invocations.length
    · rw [hvs, getElem?_append_left hlt] at hv
      obtain ⟨j, f, hf, hi⟩ := hs.flushed i v hv hflushed
      obtain ⟨f', hf', hsub⟩ := h.kept j f hf
      exact ⟨j, f', hf', hsub i hi⟩
    · have hks := (h.begins.fresh i).mpr ⟨Nat.not_lt.mp hlt, (List.getElem?_eq_some_iff.mp hv).1⟩
      exact h.new i hks
  · rw [h.supervised]
    exact h.apart hs.apart

theorem flush_grows {timeout maxRounds : Nat} (h : step s (.flush timeout maxRounds) = some t) :
    ∃ ks, Grows s t ks := by
  cases h
  obtain ⟨ks, hbegins, hdeliveries⟩ := proceed_begins s
    { timeout, maxRounds, startTime := s.system.now, rounds := 0, deliveries := [], addresses := []
      status := .running }
  rw [append_nil] at hdeliveries
  refine ⟨ks, hbegins, rfl, rfl, rfl, fun f hf i hi => ?_, fun j f hf => ?_, fun i hi => ?_⟩
  · obtain hf | hf := mem_append.mp hf
    · exact .inr ⟨f, hf, hi⟩
    · obtain rfl := mem_singleton.mp hf
      exact .inl (hdeliveries ▸ hi)
  · exact ⟨f, by rw [getElem?_append_left (List.getElem?_eq_some_iff.mp hf).1, hf],
      fun _ hi => hi⟩
  · exact ⟨s.flushes.length, _, getElem?_concat_length, hdeliveries ▸ hi⟩

theorem advanceFlush_inv {j : Nat} (h : step s (.advanceFlush j) = some t) :
    ∃ f r, s.flushes[j]? = some f ∧ resume s f = some r ∧
      t = { s with system := r.1, flushes := s.flushes.set j r.2 } := by
  simp only [step, bind_eq_some_iff, map_eq_some_iff] at h
  obtain ⟨f, hf, r, hr, rfl⟩ := h
  exact ⟨f, r, hf, hr, rfl⟩

theorem advanceFlush_grows {j : Nat} (h : step s (.advanceFlush j) = some t) :
    ∃ ks, Grows s t ks := by
  obtain ⟨f, r, hf, hr, rfl⟩ := advanceFlush_inv h
  obtain ⟨ks, hbegins, hdeliveries⟩ := resume_begins hr
  have hlt := (List.getElem?_eq_some_iff.mp hf).1
  refine ⟨ks, hbegins, rfl, rfl, rfl, fun g hg i hi => ?_, fun k g hg => ?_, fun i hi => ?_⟩
  · obtain hg | rfl := mem_or_eq_of_mem_set hg
    · exact .inr ⟨g, hg, hi⟩
    · rw [hdeliveries, mem_append] at hi
      exact hi.imp_right fun hi => ⟨f, mem_of_getElem? hf, hi⟩
  · by_cases hk : j = k
    · subst hk
      obtain rfl := some.inj (hf.symm.trans hg)
      refine ⟨r.2, getElem?_set_self hlt, fun i hi => ?_⟩
      rw [hdeliveries]
      exact mem_append_right _ hi
    · exact ⟨g, by rw [getElem?_set_ne hk, hg], fun _ hi => hi⟩
  · refine ⟨j, r.2, getElem?_set_self hlt, ?_⟩
    rw [hdeliveries]
    exact mem_append_left _ hi

theorem system_inv (h : step s (.system a) = some t) :
    (∀ p, a ≠ .processNextMessage p) ∧ ∃ u, ActorSystem.step s.system a = some u ∧
      t = { s with
        system := u
        paths := pathsAfter s a u
        thrown := thrownAfter s a
        supervised := supervisedAfter s a } := by
  cases a with
  | processNextMessage p => cases h
  | tick | setTestMode | setSystemEventActor | spawn | stop | stopInternal | stopSystem
  | enqueueMessage | advance =>
    simp only [step, map_eq_some_iff] at h
    obtain ⟨u, hu, rfl⟩ := h
    exact ⟨fun _ h => (by cases h), u, hu, rfl⟩

theorem invocationOf_inv {u : System} {i : Nat} {v : Invocation}
    (h : invocationOf u a = some (i, v)) : u.invocations[i]? = some v := by
  obtain ⟨k, -, hk⟩ := bind_eq_some_iff.mp h
  obtain ⟨w, hw, he⟩ := map_eq_some_iff.mp hk
  cases he
  exact hw

theorem step_length {u : System} {i : Nat} (h : ActorSystem.step u a = some w)
    (hi : i < u.invocations.length) : i < w.invocations.length := by
  have hv := getElem?_eq_getElem hi
  by_cases ha : a.invocation = some i
  · cases a with
    | advance k o =>
      obtain rfl : k = i := some.inj ha
      obtain ⟨n, -, -, -, hw⟩ := advance_invocation h hv
      exact (List.getElem?_eq_some_iff.mp hw).1
    | _ => cases ha
  · exact (List.getElem?_eq_some_iff.mp (step_invocation h ha hv)).1

theorem Apart.step {l' : List Nat} (hs : Sound s) (hl : Apart s l) (h : step s (.system a) = some t)
    (hl' : l' = l ∨ ∃ i v, invocationOf s.system a = some (i, v) ∧ v.base ≠ .caller ∧ l' = i :: l) :
    Apart t l' := by
  obtain ⟨-, u, hu, rfl⟩ := system_inv h
  have hlt : ∀ i ∈ l, i < u.invocations.length := fun i hi => step_length hu (hl.lt i hi)
  obtain rfl | ⟨i, v, hi, hbase, rfl⟩ := hl'
  · exact ⟨hl.deliveries, hlt⟩
  · have hv := invocationOf_inv hi
    refine ⟨fun f hf k hk hmem => ?_, forall_mem_cons.mpr
      ⟨step_length hu (List.getElem?_eq_some_iff.mp hv).1, hlt⟩⟩
    obtain rfl | hmem := mem_cons.mp hmem
    · obtain ⟨w, hw, -, hcaller, -⟩ := hs.deliveries f hf k hk
      obtain rfl := some.inj (hv.symm.trans hw)
      exact hbase hcaller
    · exact hl.deliveries f hf k hk hmem

theorem supervisedAfter_cases (s : FlushSystem) (a : Action) :
    supervisedAfter s a = s.supervised ∨ ∃ i v, invocationOf s.system a = some (i, v) ∧
      v.base ≠ .caller ∧ supervisedAfter s a = i :: s.supervised := by
  unfold supervisedAfter
  split
  case h_1 h => exact .inr ⟨_, _, h, fun he => (by cases he), rfl⟩
  case h_2 h => exact .inr ⟨_, _, h, fun he => (by cases he), rfl⟩
  case h_3 => exact .inl rfl

theorem thrownAfter_cases (h : calm s (.system a) = true) :
    thrownAfter s a = s.thrown ∨ ∃ i v, invocationOf s.system a = some (i, v) ∧
      v.base ≠ .caller ∧ thrownAfter s a = i :: s.thrown := by
  unfold thrownAfter
  split
  case h_1 i p m driver base hi =>
    refine .inr ⟨i, _, hi, fun hbase => ?_, rfl⟩
    obtain rfl : base = .caller := hbase
    simp only [calm, hi] at h
    cases h
  case h_2 => exact .inl rfl

theorem pathsAfter_complete (hs : Sound s) (ha : ActorSystem.step s.system a = some w)
    (p : ActorAddress) (hp : (w.mailboxes p).isSome) : p ∈ pathsAfter s a w := by
  unfold pathsAfter
  refine mem_filter.mpr ⟨?_, hp⟩
  obtain hold | ⟨i, ⟨call, driver, base⟩, hi, rfl⟩ := step_mailboxes ha hp
  · have hmem := hs.paths p hold
    split
    case h_1 q _ _ _ =>
      split
      · exact hmem
      · exact mem_append_left _ hmem
    case h_2 => exact hmem
  · rw [hi]
    dsimp only
    split
    case isTrue hmem => exact hmem
    case isFalse => exact mem_append_right _ (mem_singleton_self p)

theorem system_sound (hs : Sound s) (h : step s (.system a) = some t) : Sound t := by
  have hsupervised := hs.apart.step hs h (supervisedAfter_cases s a)
  obtain ⟨ha, u, hu, rfl⟩ := system_inv h
  refine ⟨pathsAfter_complete hs hu, fun f hf i hi => step_delivery hu (hs.deliveries f hf i hi), ?_,
    hsupervised⟩
  intro i v hv hflushed
  obtain ⟨v', hv', hflushed'⟩ := step_flushed ha hu hv hflushed
  exact hs.flushed i v' hv' hflushed'

theorem step_sound (s : FlushSystem) (a : FlushAction) (t : FlushSystem) (hs : Sound s)
    (h : step s a = some t) : Sound t := by
  cases a with
  | system a => exact system_sound hs h
  | flush timeout maxRounds =>
    obtain ⟨ks, hgrows⟩ := flush_grows h
    exact hgrows.sound hs
  | advanceFlush j =>
    obtain ⟨ks, hgrows⟩ := advanceFlush_grows h
    exact hgrows.sound hs

theorem step_apart (hs : Sound s) (hl : Apart s s.thrown) {a : FlushAction} (hcalm : calm s a = true)
    (h : step s a = some t) : Apart t t.thrown := by
  cases a with
  | system a =>
    have hthrown := hl.step hs h (thrownAfter_cases hcalm)
    obtain ⟨-, u, -, rfl⟩ := system_inv h
    exact hthrown
  | flush timeout maxRounds =>
    obtain ⟨ks, hgrows⟩ := flush_grows h
    rw [hgrows.thrown]
    exact hgrows.apart hl
  | advanceFlush j =>
    obtain ⟨ks, hgrows⟩ := advanceFlush_grows h
    rw [hgrows.thrown]
    exact hgrows.apart hl

end Invariants

section Barriers

variable {s t : FlushSystem} {j : Nat} {a : FlushAction}

theorem mailboxSize_eq_zero (hs : Sound s) (h : hasQueuedMessages s = false) (p : ActorAddress) :
    mailboxSize s.system p = 0 := by
  by_contra hsize
  have hp : (s.system.mailboxes p).isSome := by
    cases hbox : s.system.mailboxes p with
    | none => exact absurd (by rw [mailboxSize, hbox]; rfl) hsize
    | some box => rfl
  have hbusy : p ∈ busyPaths s :=
    mem_filter.mpr ⟨hs.paths p hp, decide_eq_true (Nat.pos_of_ne_zero hsize)⟩
  rw [hasQueuedMessages, Bool.not_eq_false', List.isEmpty_iff] at h
  rw [h] at hbusy
  cases hbusy

theorem resolves_inv (h : step s a = some t) (hr : Resolves j s t) :
    hasQueuedMessages s = false ∧ t.system = s.system ∧
      (∀ f, s.flushes[j]? = some f → f.addresses = [] ∧
        ∀ i ∈ f.deliveries, hasReturned s.system false i = true) ∧
      ((∃ timeout maxRounds, a = .flush timeout maxRounds ∧ j = s.flushes.length) ∨
        a = .advanceFlush j ∧ ∃ f, s.flushes[j]? = some f) := by
  obtain ⟨hbefore, hafter⟩ := hr
  cases a with
  | system a =>
    obtain ⟨-, u, -, rfl⟩ := system_inv h
    exact absurd hafter hbefore
  | flush timeout maxRounds =>
    cases h
    dsimp only at hafter
    by_cases hlt : j < s.flushes.length
    · rw [getElem?_append_left hlt] at hafter
      exact absurd hafter hbefore
    · obtain ⟨g, hg, hstatus⟩ := map_eq_some_iff.mp hafter
      rw [getElem?_append_right (Nat.not_lt.mp hlt)] at hg
      have hj := (List.getElem?_eq_some_iff.mp hg).1
      rw [length_singleton] at hj
      obtain rfl := mem_singleton.mp (mem_of_getElem? hg)
      obtain ⟨hempty, hsame⟩ := proceed_resolved rfl hstatus
      have hj : j = s.flushes.length := by omega
      refine ⟨hempty, hsame, fun f hf => ?_, .inl ⟨timeout, maxRounds, rfl, hj⟩⟩
      exact absurd (List.getElem?_eq_some_iff.mp hf).1 hlt
  | advanceFlush k =>
    obtain ⟨f, r, hf, hresume, rfl⟩ := advanceFlush_inv h
    dsimp only at hafter
    by_cases hk : k = j
    · subst hk
      rw [getElem?_set_self (List.getElem?_eq_some_iff.mp hf).1] at hafter
      obtain ⟨hempty, hsame, haddresses, -, hover⟩ :=
        resume_resolved hresume (some.inj hafter)
      refine ⟨hempty, hsame, fun g hg => ?_, .inr ⟨rfl, f, hf⟩⟩
      obtain rfl := some.inj (hf.symm.trans hg)
      exact ⟨haddresses, hover⟩
    · rw [getElem?_set_ne hk] at hafter
      exact absurd hafter hbefore

theorem busyElsewhere_iff : busyElsewhere s j = true ↔
    ∃ (i : Nat) (v : Invocation), s.system.invocations[i]? = some v ∧ inHand v.call = true ∧
      (v.base ≠ .caller ∨ ∃ (k : Nat) (f : FlushCall), s.flushes[k]? = some f ∧ k ≠ j ∧
        i ∈ f.deliveries) := by
  simp only [busyElsewhere, any_eq_true, Prod.exists, mem_zipIdx_iff_getElem?, Bool.and_eq_true,
    Bool.or_eq_true, decide_eq_true_eq, contains_iff_mem]
  constructor
  · rintro ⟨v, i, hv, hcall, hrest⟩
    refine ⟨i, v, hv, hcall, hrest.imp_right ?_⟩
    rintro ⟨f, k, hf, hk, hi⟩
    exact ⟨k, f, hf, hk, hi⟩
  · rintro ⟨i, v, hv, hcall, hrest⟩
    refine ⟨v, i, hv, hcall, hrest.imp_right ?_⟩
    rintro ⟨k, f, hf, hk, hi⟩
    exact ⟨f, k, hf, hk, hi⟩

theorem resolves_quiet (hs : Sound s) (h : step s a = some t) (hr : Resolves j s t) :
    (∀ p, mailboxSize t.system p = 0) ∧ (Quiet t.system ↔ busyElsewhere s j = false) := by
  obtain ⟨hempty, hsame, hown, -⟩ := resolves_inv h hr
  have hsizes : ∀ p, mailboxSize t.system p = 0 := by
    rw [hsame]
    exact mailboxSize_eq_zero hs hempty
  refine ⟨hsizes, fun hquiet => ?_, fun helsewhere => ⟨hsizes, fun v hv => ?_⟩⟩
  · by_contra hbusy
    obtain ⟨i, v, hv, hcall, -⟩ := busyElsewhere_iff.mp (Bool.not_eq_false _ ▸ hbusy)
    have hnone := hquiet.2 v (hsame ▸ mem_of_getElem? hv)
    rw [hcall] at hnone
    cases hnone
  · rw [hsame] at hv
    obtain ⟨i, hi⟩ := getElem?_of_mem hv
    by_contra hcall
    rw [Bool.not_eq_false] at hcall
    refine absurd (busyElsewhere_iff.mpr ⟨i, v, hi, hcall, ?_⟩) (Bool.eq_false_iff.mp helsewhere)
    by_cases hbase : v.base = .caller
    · have hflushed : Flushed v := (inHand_cases hcall).imp_right fun hc => ⟨hc, hbase⟩
      obtain ⟨k, f, hf, hif⟩ := hs.flushed i v hi hflushed
      refine .inr ⟨k, f, hf, fun hk => ?_, hif⟩
      -- The flush itself waits for what it holds.
      obtain rfl : k = j := hk
      have hreturned := (hown f hf).2 i hif
      rw [hasReturned, hi, any_some, decide_eq_true_eq] at hreturned
      rw [hreturned] at hcall
      cases hcall
    · exact .inl hbase

theorem calm_elsewhere (h : step s a = some t) (hr : Resolves j s t) (hcalm : calm s a = true) :
    busyElsewhere s j = false := by
  obtain ⟨hempty, -, hown, ⟨timeout, maxRounds, rfl, rfl⟩ | ⟨rfl, f, hf⟩⟩ := resolves_inv h hr
  · rw [calm, hempty, Bool.false_or, Bool.not_eq_true'] at hcalm
    exact hcalm
  · rw [calm, hf] at hcalm
    simp only [hempty, (hown f hf).1, isEmpty_nil, Bool.not_true, Bool.false_or,
      Bool.not_eq_true'] at hcalm
    exact hcalm

def queuedRun : List FlushAction :=
  [.system (.spawn counter ⟨false⟩ none), .system (.advance 0 .ok), .system (.advance 0 .ok),
    .system (.enqueueMessage counter), .system (.advance 2 .ok)]

def flushedRun : List FlushAction :=
  queuedRun ++ [.flush 5000 1000] ++ List.replicate 4 (.system (.advance 3 .ok)) ++ [.advanceFlush 0]

/-- The loop takes the message, and a flush resolves while its handler is suspended. -/
def suspendedRun : List FlushAction := queuedRun ++ [.system (.advance 1 .ok)]

def throwingRun : List FlushAction :=
  queuedRun ++ [.flush 5000 1000] ++ List.replicate 3 (.system (.advance 3 .ok)) ++
    [.system (.advance 3 .threw)]

end Barriers

end ActorWeb.ActorFlush
