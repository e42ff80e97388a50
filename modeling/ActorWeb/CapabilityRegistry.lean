import ActorWeb.CapabilitySecurity

namespace ActorWeb.CapabilitySecurity

open OrderedMap Option List Transition

section Tracking

variable {m : Tracking} {a b id x : String}

theorem Tracking.ids_set (m : Tracking) (a b : String) (ids : List String) :
    Tracking.ids (m.set b ids) a = if a = b then ids else m.ids a := by
  rw [Tracking.ids, get_set]
  split
  · rfl
  · rfl

theorem Tracking.ids_delete (m : Tracking) (a b : String) :
    Tracking.ids (m.delete b) a = if a = b then [] else m.ids a := by
  rw [Tracking.ids, OrderedMap.get_delete]
  split
  · rfl
  · rfl

theorem Tracking.mem_add (m : Tracking) (a b id x : String) :
    x ∈ (m.add b id).ids a ↔ x ∈ m.ids a ∨ a = b ∧ x = id := by
  rw [Tracking.add, Tracking.ids_set]
  by_cases hab : a = b
  · subst hab
    by_cases hid : id ∈ m.ids a
    · simp only [if_pos hid, true_and, if_true]
      exact ⟨.inl, fun h => h.elim (fun h => h) fun h => h ▸ hid⟩
    · simp [hid]
  · simp [hab]

theorem mem_filter_ne {ids : List String} : x ∈ ids.filter (· ≠ id) ↔ x ∈ ids ∧ x ≠ id := by
  rw [mem_filter, decide_eq_true_eq]

theorem Tracking.mem_remove (hone : ∀ a b, id ∈ m.ids a → id ∈ m.ids b → a = b) (a x : String) :
    x ∈ (m.remove id).ids a ↔ x ∈ m.ids a ∧ x ≠ id := by
  unfold Tracking.remove
  cases hfind : m.entries.find? fun e => id ∈ e.2 with
  | none =>
    have hnone : ∀ e ∈ m.entries, id ∉ e.2 := by simpa using find?_eq_none.mp hfind
    have hfree : id ∉ m.ids a := by
      rw [Tracking.ids]
      cases hget : m.get a with
      | none => exact not_mem_nil
      | some ids => exact hnone (a, ids) (get_eq_some_iff.mp hget)
    exact ⟨fun h => ⟨h, fun hx => hfree (hx ▸ h)⟩, And.left⟩
  | some e =>
    obtain ⟨b, ids⟩ := e
    have hget : m.get b = some ids :=
      get_eq_some_iff.mpr (mem_of_find?_eq_some hfind)
    have hids : m.ids b = ids := by rw [Tracking.ids, hget]; rfl
    have hmem : id ∈ m.ids b := by
      rw [hids]
      simpa using find?_some hfind
    -- Every other set is without the id already.
    have hother (hab : a ≠ b) : x ∈ m.ids a ↔ x ∈ m.ids a ∧ x ≠ id :=
      ⟨fun h => ⟨h, fun hx => hab (hone a b (hx ▸ h) hmem)⟩, And.left⟩
    dsimp only
    by_cases hempty : (ids.filter (· ≠ id)).isEmpty = true
    · rw [if_pos hempty, Tracking.ids_delete]
      by_cases hab : a = b
      · subst hab
        rw [if_pos rfl, hids, ← mem_filter_ne, List.isEmpty_iff.mp hempty]
      · rw [if_neg hab]
        exact hother hab
    · rw [if_neg hempty, Tracking.ids_set]
      by_cases hab : a = b
      · subst hab
        rw [if_pos rfl, hids, ← mem_filter_ne]
      · rw [if_neg hab]
        exact hother hab

end Tracking

section Laws

structure Law (s : Registry) : Prop where
  tracked : ∀ a id, id ∈ s.actorCapabilities.ids a ↔
    id ∈ s.capabilities ∧ ∃ c, s.granted.get id = some c ∧ c.actorId = a
  refused : ∀ id, s.dead id = true → s.validate id = false ∧
    (∀ a, id ∉ s.getCapabilities a) ∧
    ∀ c method question, s.granted.get id = some c → c.invoke s.now method ≠ .ok question
  accepted : s.rejected = []
  removed : ∀ ids ∈ s.finished, ∀ id ∈ ids, id ∉ s.capabilities

/-- No capability is granted with the expiry zero, and no cleanup comes to an id that is not
registered any more. -/
def Meets (s : Registry) : Action → Prop
  | .grant request _ => request.expiresAt ≠ some (.finite 0)
  | .resume k => ∀ c, s.cleanups.get k = some c → ∀ id, c.expiredCapabilities.head? = some id →
      id ∈ s.capabilities
  | _ => True

structure Sound (s : Registry) : Prop where
  registered : ∀ id ∈ s.capabilities, (s.granted.get id).isSome = true
  tracked : ∀ a id, id ∈ s.actorCapabilities.ids a ↔
    id ∈ s.capabilities ∧ ∃ c, s.granted.get id = some c ∧ c.actorId = a
  revoked : ∀ id ∈ s.revocations, ∃ c, s.granted.get id = some c ∧ c.isRevoked = true
  nonzero : ∀ id c, s.granted.get id = some c → c.metadata.expiresAt ≠ some (.finite 0)
  started : ∀ k c, s.cleanups.get k = some c → ∀ id ∈ c.invalid,
    (s.granted.get id).isSome = true ∧ (id ∈ s.capabilities → id ∈ c.expiredCapabilities)
  removed : ∀ ids ∈ s.finished, ∀ id ∈ ids,
    (s.granted.get id).isSome = true ∧ id ∉ s.capabilities
  accepted : s.rejected = []

variable {s t : Registry} {id : String} {c : Capability} {now : Int}

theorem sound_new (now : Int) : Sound (Registry.new now) where
  registered _ h := absurd h not_mem_nil
  tracked _ _ := ⟨fun h => absurd h not_mem_nil, fun h => absurd h.1 not_mem_nil⟩
  revoked _ h := absurd h not_mem_nil
  nonzero _ _ h := by cases h
  started _ _ h := by cases h
  removed _ h := absurd h not_mem_nil
  accepted := rfl

theorem isValid_passed (hzero : c.metadata.expiresAt ≠ some (.finite 0))
    (h : c.passed now = true) : c.isValid now = false := by
  obtain ⟨e, he, hlt⟩ := (Option.any_eq_true _ _).mp h
  have htruthy : e.truthy = true := by
    cases e with
    | finite q =>
      refine decide_eq_true fun hq => hzero ?_
      rw [he, hq]
    | infinite negative => rfl
    | nan => cases hlt
  simp [Capability.isValid, he, htruthy, hlt]

theorem isValid_revoked (h : c.isRevoked = true) : c.isValid now = false := by
  rw [Capability.isValid, h]
  rfl

theorem Sound.invalid (h : Sound s) (hdead : s.dead id = true) (hget : s.granted.get id = some c) :
    c.isValid s.now = false := by
  rcases Bool.or_eq_true _ _ ▸ hdead with hrevoked | hpassed
  · obtain ⟨c', hget', hflag⟩ := h.revoked id (contains_iff_mem.mp hrevoked)
    obtain rfl := some.inj (hget.symm.trans hget')
    exact isValid_revoked hflag
  · rw [hget] at hpassed
    exact isValid_passed (h.nonzero id c hget) hpassed

theorem Sound.isValid_dead (h : Sound s) (hdead : s.dead id = true) : s.isValid id = false := by
  rw [Registry.isValid, Registry.lookup]
  split
  · cases hget : s.granted.get id with
    | none => rfl
    | some c => exact h.invalid hdead hget
  · rfl

theorem Sound.law (h : Sound s) : Law s where
  tracked := h.tracked
  refused id hdead := by
    refine ⟨h.isValid_dead hdead, fun a hmem => ?_, fun c method question hget => ?_⟩
    · have hvalid := (mem_filter.mp hmem).2
      rw [h.isValid_dead hdead] at hvalid
      cases hvalid
    · rw [Capability.invoke, h.invalid hdead hget]
      exact fun hok => by cases hok
  accepted := h.accepted
  removed ids hids id hid := (h.removed ids hids id hid).2

end Laws

section Steps

variable {s t : Registry} {id : String} {c : Capability}

theorem get_revokeCapability (s : Registry) (id x : String) :
    (s.revokeCapability id).granted.get x =
      (s.granted.get x).map fun c => if x = id then c.revoke else c := by
  unfold Registry.revokeCapability
  cases hget : s.granted.get id with
  | none =>
    by_cases hx : x = id
    · subst hx
      simp [hget]
    · simp [hx]
  | some c =>
    dsimp only
    rw [get_set]
    by_cases hx : x = id
    · subst hx
      simp [hget]
    · simp [hx]

theorem revokeCapability_fields (s : Registry) (id : String) :
    (s.revokeCapability id).capabilities = s.capabilities ∧
    (s.revokeCapability id).actorCapabilities = s.actorCapabilities ∧
    (s.revokeCapability id).cleanups = s.cleanups ∧ (s.revokeCapability id).finished = s.finished ∧
    (s.revokeCapability id).rejected = s.rejected ∧ (s.revokeCapability id).now = s.now := by
  unfold Registry.revokeCapability
  split
  · exact ⟨rfl, rfl, rfl, rfl, rfl, rfl⟩
  · exact ⟨rfl, rfl, rfl, rfl, rfl, rfl⟩

theorem mem_revocations {x : String} (hx : x ∈ (s.revokeCapability id).revocations) :
    x ∈ s.revocations ∨ x = id ∧ (s.granted.get x).isSome = true := by
  unfold Registry.revokeCapability at hx
  cases hget : s.granted.get id with
  | none =>
    rw [hget] at hx
    exact .inl hx
  | some c =>
    rw [hget] at hx
    rcases mem_append.mp hx with hx | hx
    · exact .inl hx
    · obtain rfl := mem_singleton.mp hx
      exact .inr ⟨rfl, by rw [hget]; rfl⟩

theorem Sound.revokeCapability (h : Sound s) (id : String) : Sound (s.revokeCapability id) := by
  obtain ⟨hcapabilities, hactors, hcleanups, hfinished, hrejected, -⟩ := revokeCapability_fields s id
  have hsome (x : String) : ((s.revokeCapability id).granted.get x).isSome = (s.granted.get x).isSome := by
    rw [get_revokeCapability, isSome_map]
  refine ⟨?_, ?_, ?_, ?_, ?_, ?_, hrejected.trans h.accepted⟩
  · intro x hx
    rw [hsome]
    exact h.registered x (hcapabilities ▸ hx)
  · intro a x
    rw [hactors, hcapabilities, h.tracked, get_revokeCapability]
    refine and_congr_right fun _ => ?_
    cases s.granted.get x with
    | none => simp
    | some c => by_cases hx : x = id <;> simp [hx, Capability.revoke]
  · intro x hx
    rcases mem_revocations hx with hold | ⟨rfl, hgranted⟩
    · obtain ⟨c, hget, hflag⟩ := h.revoked x hold
      refine ⟨_, by rw [get_revokeCapability, hget]; rfl, ?_⟩
      split
      · rfl
      · exact hflag
    · obtain ⟨c, hget⟩ := isSome_iff_exists.mp hgranted
      exact ⟨c.revoke, by rw [get_revokeCapability, hget, map_some, if_pos rfl], rfl⟩
  · intro x c hget
    rw [get_revokeCapability] at hget
    obtain ⟨old, hold, rfl⟩ := map_eq_some_iff.mp hget
    have hzero := h.nonzero x old hold
    split
    · exact hzero
    · exact hzero
  · intro k c hk x hx
    rw [hcleanups] at hk
    rw [hsome, hcapabilities]
    exact h.started k c hk x hx
  · intro ids hids x hx
    rw [hfinished] at hids
    rw [hsome, hcapabilities]
    exact h.removed ids hids x hx

theorem Sound.unregister (h : Sound s) (id : String) : Sound { s with
      capabilities := s.capabilities.filter (· ≠ id)
      actorCapabilities := s.actorCapabilities.remove id } := by
  have hone (a b : String) (ha : id ∈ s.actorCapabilities.ids a)
      (hb : id ∈ s.actorCapabilities.ids b) : a = b := by
    obtain ⟨-, c, hc, rfl⟩ := (h.tracked a id).mp ha
    obtain ⟨-, c', hc', rfl⟩ := (h.tracked b id).mp hb
    rw [some.inj (hc.symm.trans hc')]
  refine { h with registered := ?_, tracked := ?_, started := ?_, removed := ?_ }
  · exact fun x hx => h.registered x (mem_filter_ne.mp hx).1
  · intro a x
    rw [Tracking.mem_remove hone, mem_filter_ne, h.tracked]
    tauto
  · intro k c hk x hx
    obtain ⟨hsome, hleft⟩ := h.started k c hk x hx
    exact ⟨hsome, fun hx => hleft (mem_filter_ne.mp hx).1⟩
  · intro ids hids x hx
    obtain ⟨hsome, hgone⟩ := h.removed ids hids x hx
    exact ⟨hsome, fun hx => hgone (mem_filter_ne.mp hx).1⟩

theorem revoke_cases (s : Registry) (id : String) :
    (s.revoke id = .error (.notFound id) ∧ s.lookup id = none) ∨
    s.revoke id = .ok { s.revokeCapability id with
      capabilities := (s.revokeCapability id).capabilities.filter (· ≠ id)
      actorCapabilities := (s.revokeCapability id).actorCapabilities.remove id } := by
  obtain ⟨hcapabilities, hactors, -⟩ := revokeCapability_fields s id
  rw [hcapabilities, hactors]
  unfold Registry.revoke
  cases hlookup : s.lookup id with
  | none => exact .inl ⟨rfl, rfl⟩
  | some c => exact .inr rfl

theorem Sound.revoke (h : Sound s) (hrevoke : s.revoke id = .ok t) :
    Sound t ∧ (∀ x, x ∈ t.capabilities ↔ x ∈ s.capabilities ∧ x ≠ id) ∧
      t.cleanups = s.cleanups ∧ ∀ x, (t.granted.get x).isSome = (s.granted.get x).isSome := by
  obtain ⟨hcapabilities, -, hcleanups, -⟩ := revokeCapability_fields s id
  rcases revoke_cases s id with ⟨herror, -⟩ | hok
  · rw [herror] at hrevoke
    cases hrevoke
  · obtain rfl := Except.ok.inj (hok.symm.trans hrevoke)
    refine ⟨(h.revokeCapability id).unregister id, fun x => ?_, hcleanups, fun x => ?_⟩
    · rw [mem_filter_ne, hcapabilities]
    · exact (congrArg Option.isSome (get_revokeCapability s id x)).trans isSome_map

theorem lookup_registered (h : Sound s) (hid : id ∈ s.capabilities) : (s.lookup id).isSome = true := by
  rw [Registry.lookup, if_pos hid]
  exact h.registered id hid

theorem Sound.grant (h : Sound s) (request : GrantRequest) (hnew : s.granted.get id = none)
    (hzero : request.expiresAt ≠ some (.finite 0)) : Sound (s.grant request id) := by
  have hne {x : String} (hx : (s.granted.get x).isSome = true) : x ≠ id := by
    rintro rfl
    rw [hnew] at hx
    cases hx
  have hkeep {x : String} (hx : (s.granted.get x).isSome = true) :
      (s.grant request id).granted.get x = s.granted.get x := get_set_ne _ _ (hne hx)
  refine ⟨?_, ?_, ?_, ?_, ?_, ?_, h.accepted⟩
  · intro x hx
    rcases mem_append.mp hx with hx | hx
    · rw [hkeep (h.registered x hx)]
      exact h.registered x hx
    · obtain rfl := mem_singleton.mp hx
      exact isSome_iff_exists.mpr ⟨_, get_set_self _ _ _⟩
  · intro a x
    change x ∈ (s.actorCapabilities.add request.actorId id).ids a ↔ x ∈ s.capabilities ++ [id] ∧ _
    rw [Tracking.mem_add, h.tracked, mem_append, mem_singleton]
    by_cases hx : x = id
    · subst hx
      have hself : (s.grant request x).granted.get x = some _ := get_set_self _ _ _
      rw [hself, hnew]
      simp [eq_comm]
    · have hother : (s.grant request id).granted.get x = s.granted.get x :=
        get_set_ne _ _ hx
      rw [hother]
      simp [hx]
  · intro x hx
    obtain ⟨c, hget, hflag⟩ := h.revoked x hx
    exact ⟨c, (hkeep (by rw [hget]; rfl)).trans hget, hflag⟩
  · intro x c hget
    by_cases hx : x = id
    · subst hx
      obtain rfl := some.inj ((get_set_self _ _ _).symm.trans hget)
      exact hzero
    · exact h.nonzero x c ((get_set_ne _ _ hx).symm.trans hget)
  · intro k c hk x hx
    obtain ⟨hsome, hleft⟩ := h.started k c hk x hx
    rw [hkeep hsome]
    refine ⟨hsome, fun hmem => hleft ?_⟩
    rcases mem_append.mp hmem with hmem | hmem
    · exact hmem
    · exact absurd (mem_singleton.mp hmem) (hne hsome)
  · intro ids hids x hx
    obtain ⟨hsome, hgone⟩ := h.removed ids hids x hx
    rw [hkeep hsome]
    refine ⟨hsome, fun hmem => ?_⟩
    rcases mem_append.mp hmem with hmem | hmem
    · exact hgone hmem
    · exact hne hsome (mem_singleton.mp hmem)

theorem Sound.advance (h : Sound s) {k : Nat} {c : Cleanup}
    (hstarted : ∀ id ∈ c.invalid, (s.granted.get id).isSome = true ∧
      (id ∈ s.capabilities → id ∈ c.expiredCapabilities))
    (hnext : ∀ id, c.expiredCapabilities.head? = some id → id ∈ s.capabilities) :
    Sound (s.advance k c) := by
  unfold Registry.advance
  split
  case h_1 hnil =>
    refine { h with started := ?_, removed := ?_ }
    · intro j d hj
      by_cases hjk : j = k
      · subst hjk
        rw [get_delete_self] at hj
        cases hj
      · exact h.started j d ((get_delete_ne _ hjk).symm.trans hj)
    · intro ids hids x hx
      rcases mem_append.mp hids with hids | hids
      · exact h.removed ids hids x hx
      · obtain rfl := mem_singleton.mp hids
        obtain ⟨hsome, hleft⟩ := hstarted x hx
        exact ⟨hsome, fun hmem => absurd (hnil ▸ hleft hmem) not_mem_nil⟩
  case h_2 id rest hcons =>
    have hregistered : id ∈ s.capabilities := hnext id (by rw [hcons]; rfl)
    rcases revoke_cases s id with ⟨-, hnone⟩ | hok
    · have hsome := lookup_registered h hregistered
      rw [hnone] at hsome
      cases hsome
    · obtain ⟨hsound, hmem, hcleanups, hsome⟩ := h.revoke hok
      rw [hok]
      dsimp only
      refine { hsound with started := ?_ }
      intro j d hj x hx
      by_cases hjk : j = k
      · subst hjk
        obtain rfl := some.inj ((get_set_self _ _ _).symm.trans hj)
        obtain ⟨hgranted, hleft⟩ := hstarted x hx
        refine ⟨(hsome x).trans hgranted, fun hx => ?_⟩
        obtain ⟨hx, hne⟩ := (hmem x).mp hx
        exact (mem_cons.mp (hcons ▸ hleft hx)).resolve_left hne
      · exact hsound.started j d ((get_set_ne _ _ hjk).symm.trans hj) x hx

theorem Sound.cleanup (h : Sound s) (k : Nat) : Sound (s.cleanup k) := by
  refine h.advance (fun id hid => ?_) fun id hid => ?_
  · obtain ⟨hmem, hdead⟩ := mem_filter.mp hid
    refine ⟨h.registered id hmem, fun _ => mem_filter.mpr ⟨hmem, ?_⟩⟩
    rw [h.isValid_dead hdead]
    rfl
  · exact (mem_filter.mp (mem_of_head? hid)).1

theorem Sound.step (h : Sound s) {a : Action} (ha : Meets s a) (hstep : s.step a = some t) :
    Sound t := by
  cases a with
  | tick ms =>
    cases hstep
    exact { h with }
  | grant request id =>
    simp only [Registry.step] at hstep
    split at hstep
    · cases hstep
    case isFalse hnew =>
      cases hstep
      exact h.grant request (not_isSome_iff_eq_none.mp hnew) ha
  | revoke id =>
    simp only [Registry.step] at hstep
    split at hstep
    case h_1 u hu =>
      cases hstep
      exact (h.revoke hu).1
    case h_2 =>
      cases hstep
      exact h
  | revokeCapability id =>
    cases hstep
    exact h.revokeCapability id
  | cleanup k =>
    simp only [Registry.step] at hstep
    split at hstep
    · cases hstep
    · cases hstep
      exact h.cleanup k
  | resume k =>
    obtain ⟨c, hk, rfl⟩ := map_eq_some_iff.mp hstep
    exact h.advance (h.started k c hk) (ha c hk)

end Steps

section Runs

variable {s t u : Registry} {id : String} {now : Int}

/-- What only grows: the clock, the granted capabilities with what they were granted with, and the
revocations. -/
structure Grows (s t : Registry) : Prop where
  now : s.now ≤ t.now
  revocations : s.revocations ⊆ t.revocations
  granted : ∀ id c, s.granted.get id = some c →
    ∃ d, t.granted.get id = some d ∧ d.metadata = c.metadata

theorem Grows.refl (s : Registry) : Grows s s :=
  ⟨le_refl _, List.Subset.refl _, fun _ c hc => ⟨c, hc, rfl⟩⟩

theorem Grows.dead (h : Grows s t) (hdead : s.dead id = true) : t.dead id = true := by
  rcases Bool.or_eq_true _ _ ▸ hdead with hrevoked | hpassed
  · exact Bool.or_eq_true_iff.mpr
      (.inl (contains_iff_mem.mpr (h.revocations (contains_iff_mem.mp hrevoked))))
  · obtain ⟨c, hget, hpassed⟩ := (Option.any_eq_true _ _).mp hpassed
    obtain ⟨e, he, hlt⟩ := (Option.any_eq_true _ _).mp hpassed
    obtain ⟨d, hd, hmetadata⟩ := h.granted id c hget
    refine Bool.or_eq_true_iff.mpr (.inr ((Option.any_eq_true _ _).mpr ⟨d, hd, ?_⟩))
    refine (Option.any_eq_true _ _).mpr ⟨e, hmetadata ▸ he, JsNumber.lt_mono hlt ?_⟩
    exact_mod_cast h.now

theorem grows_revokeCapability (s : Registry) (id : String) : Grows s (s.revokeCapability id) := by
  obtain ⟨-, -, -, -, -, hnow⟩ := revokeCapability_fields s id
  refine ⟨hnow.ge, fun x hx => ?_, fun x c hget => ?_⟩
  · unfold Registry.revokeCapability
    split
    · exact hx
    · exact mem_append_left _ hx
  · refine ⟨_, by rw [get_revokeCapability, hget]; rfl, ?_⟩
    split
    · rfl
    · rfl

theorem grows_revoke (h : s.revoke id = .ok t) : Grows s t := by
  rcases revoke_cases s id with ⟨herror, -⟩ | hok
  · rw [herror] at h
    cases h
  · obtain rfl := Except.ok.inj (hok.symm.trans h)
    have hgrows := grows_revokeCapability s id
    exact ⟨hgrows.now, hgrows.revocations, hgrows.granted⟩

theorem grows_advance (s : Registry) (k : Nat) (c : Cleanup) : Grows s (s.advance k c) := by
  unfold Registry.advance
  split
  case h_1 => exact ⟨le_refl _, List.Subset.refl _, (Grows.refl s).granted⟩
  case h_2 id rest _ =>
    split
    case h_1 t ht =>
      have hgrows := grows_revoke ht
      exact ⟨hgrows.now, hgrows.revocations, hgrows.granted⟩
    case h_2 => exact ⟨le_refl _, List.Subset.refl _, (Grows.refl s).granted⟩

theorem grows_step {a : Action} (h : s.step a = some t) : Grows s t := by
  cases a with
  | tick ms =>
    cases h
    exact ⟨Int.le_add_of_nonneg_right (Int.natCast_nonneg ms), List.Subset.refl _,
      (Grows.refl s).granted⟩
  | grant request id =>
    simp only [Registry.step] at h
    split at h
    · cases h
    case isFalse hnew =>
      cases h
      refine ⟨le_refl _, List.Subset.refl _, fun x c hget => ⟨c, ?_, rfl⟩⟩
      refine (get_set_ne _ _ ?_).trans hget
      rintro rfl
      exact hnew (by rw [hget]; rfl)
  | revoke id =>
    simp only [Registry.step] at h
    split at h
    case h_1 u hu =>
      cases h
      exact grows_revoke hu
    case h_2 =>
      cases h
      exact Grows.refl s
  | revokeCapability id =>
    cases h
    exact grows_revokeCapability s id
  | cleanup k =>
    simp only [Registry.step] at h
    split at h
    · cases h
    · cases h
      exact grows_advance s k _
  | resume k =>
    obtain ⟨c, -, rfl⟩ := map_eq_some_iff.mp h
    exact grows_advance s k c

theorem meets_of_law (hnow : 0 < s.now) {a : Action} (hstep : s.step a = some t) (hlaw : Law t) :
    Meets s a := by
  cases a with
  | tick ms => trivial
  | revoke id => trivial
  | revokeCapability id => trivial
  | cleanup k => trivial
  | grant request id =>
    intro hzero
    simp only [Registry.step] at hstep
    split at hstep
    · cases hstep
    · cases hstep
      have hself : (s.grant request id).granted.get id = some _ := get_set_self _ _ _
      have hpast : JsNumber.lt (.finite 0) (.finite s.now) = true :=
        JsNumber.lt_finite.mpr (by exact_mod_cast hnow)
      have hdead : (s.grant request id).dead id = true := by
        refine Bool.or_eq_true_iff.mpr (.inr ((Option.any_eq_true _ _).mpr ⟨_, hself, ?_⟩))
        exact (Option.any_eq_true _ _).mpr ⟨_, hzero, hpast⟩
      have hvalid : (s.grant request id).validate id = true := by
        have hmem : id ∈ (s.grant request id).capabilities :=
          mem_append_right _ mem_cons_self
        rw [Registry.validate, Registry.isValid, Registry.lookup, if_pos hmem, hself]
        simp [Capability.isValid, hzero, JsNumber.truthy]
      have hrefused := (hlaw.refused id hdead).1
      rw [hvalid] at hrefused
      cases hrefused
  | resume k =>
    intro c hk id hhead
    by_contra hgone
    simp only [Registry.step, hk, map_some, some.injEq] at hstep
    obtain ⟨rest, hcons⟩ : ∃ rest, c.expiredCapabilities = id :: rest := by
      cases hids : c.expiredCapabilities with
      | nil => rw [hids] at hhead; cases hhead
      | cons x rest =>
        rw [hids] at hhead
        cases hhead
        exact ⟨rest, rfl⟩
    have hmissing : s.revoke id = .error (.notFound id) := by
      rw [Registry.revoke, Registry.lookup, if_neg hgone]
    rw [Registry.advance, hcons] at hstep
    dsimp only at hstep
    rw [hmissing] at hstep
    have haccepted := hlaw.accepted
    rw [← hstep] at haccepted
    exact absurd haccepted (append_ne_nil_of_right_ne_nil _ (cons_ne_nil _ _))

/-- Whatever was revoked or has expired stays so; a run whose steps all meet the condition keeps
the law in every state, and no other run does. -/
theorem registry_laws (now : Int) (actions : List Action) :
    Along Registry.step (fun s _ t => ∀ id, s.dead id = true → t.dead id = true) (Registry.new now)
      actions ∧
    (Guarded Registry.step Meets (Registry.new now) actions →
      Along Registry.step (fun _ _ t => Law t) (Registry.new now) actions) ∧
    (0 < now → Along Registry.step (fun _ _ t => Law t) (Registry.new now) actions →
      Guarded Registry.step Meets (Registry.new now) actions) := by
  refine ⟨?_, ?_, ?_⟩
  · exact along_of_invariant (I := fun _ => True) (fun _ _ _ _ _ => trivial)
      (fun _ _ _ _ hstep _ => (grows_step hstep).dead) trivial actions
  · exact along_of_guarded (fun s a t hs ha hstep => ⟨hs.step ha hstep, (hs.step ha hstep).law⟩)
      (sound_new now)
  · intro hnow
    refine (along_iff_guarded_of (I := fun s => Sound s ∧ 0 < s.now) ?_ ⟨sound_new now, hnow⟩
      (sound_new now).law actions).mp
    rintro s a t ⟨hs, hpos⟩ - hstep
    exact ⟨⟨meets_of_law hpos hstep, fun ha => (hs.step ha hstep).law⟩,
      fun ha => ⟨hs.step ha hstep, hpos.trans_le (grows_step hstep).now⟩⟩

/-- A capability that expired at time zero is valid; the second of two cleanups that overlap takes
an id that the first then does not find. -/
theorem expiry_zero_and_overlapping_cleanups :
    (∃ t, exec Registry.step (Registry.new 1)
      [.grant ⟨"actor", ["*"], "owner", some (.finite 0)⟩ "cap-0"] = some t ∧ ¬ Law t) ∧
    ∃ t, exec Registry.step (Registry.new 1)
      [.grant ⟨"actor", ["*"], "owner", some (.finite 2)⟩ "cap-1",
        .grant ⟨"actor", ["*"], "owner", some (.finite 2)⟩ "cap-2", .tick 9, .cleanup 0, .cleanup 1,
        .resume 0] = some t ∧ ¬ Law t := by
  constructor
  · have hrun : (exec Registry.step (Registry.new 1)
        [.grant ⟨"actor", ["*"], "owner", some (.finite 0)⟩ "cap-0"]).any (fun t =>
        t.dead "cap-0" && t.validate "cap-0") = true := by decide +kernel
    obtain ⟨t, ht, hboth⟩ := (Option.any_eq_true _ _).mp hrun
    obtain ⟨hdead, hvalid⟩ := Bool.and_eq_true_iff.mp hboth
    refine ⟨t, ht, fun hlaw => ?_⟩
    have hrefused := (hlaw.refused "cap-0" hdead).1
    rw [hvalid] at hrefused
    cases hrefused
  · have hrun : (exec Registry.step (Registry.new 1)
        [.grant ⟨"actor", ["*"], "owner", some (.finite 2)⟩ "cap-1",
          .grant ⟨"actor", ["*"], "owner", some (.finite 2)⟩ "cap-2", .tick 9, .cleanup 0,
          .cleanup 1, .resume 0]).any (fun t =>
        decide (t.rejected = [.notFound "cap-2"])) = true := by decide +kernel
    obtain ⟨t, ht, hrejected⟩ := (Option.any_eq_true _ _).mp hrun
    refine ⟨t, ht, fun hlaw => ?_⟩
    have haccepted := hlaw.accepted
    rw [of_decide_eq_true hrejected] at haccepted
    cases haccepted

end Runs

end ActorWeb.CapabilitySecurity
