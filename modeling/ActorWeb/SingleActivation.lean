import ActorWeb.VirtualActors

namespace ActorWeb.VirtualActors

open OrderedMap List Option Transition

section Directory

def VirtualActorEntry.core (e : VirtualActorEntry) : VirtualActorId × Nat × Bool :=
  (e.virtualId, e.physicalRef, e.isActive)

theorem core_fields {e e' : VirtualActorEntry} (h : e'.core = e.core) :
    e'.virtualId = e.virtualId ∧ e'.physicalRef = e.physicalRef ∧ e'.isActive = e.isActive := by
  simpa only [VirtualActorEntry.core, Prod.mk.injEq] using h

def Kept (d d' : ActorDirectory) : Prop :=
  ∀ k, (d'.cache.get k).map VirtualActorEntry.core = (d.cache.get k).map VirtualActorEntry.core

theorem Kept.refl (d : ActorDirectory) : Kept d d := fun _ => rfl

variable {V : Type} {d : ActorDirectory} {k : String} {e : VirtualActorEntry}

variable (l : LRUCache V)

theorem LRUCache.get_cache (k : String) : (l.get k).2.cache = l.cache := by
  unfold LRUCache.get
  split
  · rfl
  · rfl

theorem LRUCache.set_present {k : String}
    (h : (l.cache.get k).isSome = true) (w : V) : (l.set k w).cache = l.cache.set k w := by
  rw [LRUCache.set, OrderedMap.has, if_pos h]

theorem LRUCache.get_evict (k : String) :
    l.evict.cache.get k = l.cache.get k ∨ l.victim = some k ∧ l.evict.cache.get k = none := by
  unfold LRUCache.evict
  split
  case h_1 => exact .inl rfl
  case h_2 lru hvictim =>
    by_cases hempty : lru = ""
    · simp [hempty]
    · simp only [hempty, if_false]
      by_cases hk : k = lru
      · subst hk
        exact .inr ⟨hvictim, get_delete_self _ _⟩
      · exact .inl (get_delete_ne _ hk)

theorem LRUCache.set_new {k : String} (h : l.cache.get k = none) (w : V) :
    (l.set k w).cache = l.evict.cache.set k w := by
  rw [LRUCache.set, OrderedMap.has, h]
  rfl

theorem LRUCache.get_delete (k j : String) :
    (l.delete k).cache.get j = if j = k then none else l.cache.get j := by
  unfold LRUCache.delete
  split
  case isTrue => exact OrderedMap.get_delete l.cache k j
  case isFalse h =>
    split
    case isTrue hj =>
      subst hj
      exact not_isSome_iff_eq_none.mp h
    case isFalse => rfl

theorem kept_set (d : ActorDirectory) {e e' : VirtualActorEntry} (hk : d.cache.get k = some e)
    (hcore : e'.core = e.core) : Kept d (LRUCache.set d k e') := by
  have hcache : (LRUCache.set d k e').cache = d.cache.set k e' :=
    d.set_present (by rw [hk]; rfl) e'
  intro j
  rw [hcache, get_set]
  split
  case isTrue hj =>
    rw [hj, hk, map_some, map_some, hcore]
  case isFalse => rfl

theorem get_cases (d : ActorDirectory) (now : Int) (v : VirtualActorId) :
    (d.cache.get (getKey v) = none ∧ d.get now v = (none, d)) ∨
    ∃ e e', d.cache.get (getKey v) = some e ∧ (d.get now v).1 = some e' ∧ e'.core = e.core ∧
      Kept d (d.get now v).2 := by
  unfold ActorDirectory.get LRUCache.get
  cases hk : d.cache.get (getKey v) with
  | none => exact .inl ⟨rfl, rfl⟩
  | some e =>
    refine .inr ⟨e, { e with lastAccessed := now, activationCount := e.activationCount + 1 }, rfl,
      rfl, rfl, ?_⟩
    exact kept_set (d.touch (getKey v)) hk rfl

end Directory

section Laws

structure Law (s : System) : Prop where
  single : ∀ r r' p p', s.physical.get r = some p → s.physical.get r' = some p' →
    p.stopped = false → p'.stopped = false → p.virtualId = p'.virtualId → r = r'
  returned : ∀ e ∈ s.returned, ∃ p, s.physical.get e.2 = some p ∧ p.virtualId = e.1

def System.spent (s : System) (e : VirtualActorEntry) : Bool :=
  (s.physical.get e.physicalRef).any Physical.stopped

/-- A step finds no entry of another triple under its key and forgets no actor that runs. -/
def Meets (s : System) : Action → Prop
  | .getActor v selectedNode => (∀ e ∈ s.directory.cache.get (getKey v), e.virtualId = v) ∧
      (s.directory.cache.get (getKey v) = none → v.type ∈ s.machines → selectedNode ≠ none →
        ∀ k ∈ s.directory.victim, ∀ e ∈ s.directory.cache.get k, s.spent e = true)
  | .cleanup => ∀ e ∈ s.directory.cache.values,
      ActorDirectory.idle s.maxIdleTime s.now e = true → s.spent e = true
  | .stopEnded i => ∀ p ∈ s.stopping[i]?, ∀ e ∈ s.directory.cache.get (getKey p.1), s.spent e = true
  | _ => True

instance (s : System) : (a : Action) → Decidable (Meets s a)
  | .getActor _ _ => inferInstanceAs (Decidable ((∀ e ∈ _, _) ∧ (_ → _ → _ → ∀ k ∈ _, _)))
  | .cleanup => inferInstanceAs (Decidable (∀ e ∈ s.directory.cache.values, _ → _))
  | .stopEnded i => inferInstanceAs (Decidable (∀ p ∈ s.stopping[i]?, ∀ e ∈ _, _))
  | .tick _ | .registerActorType _ | .deactivateActor _ | .addNode _ | .removeNode _ => .isTrue trivial

/-- What holds of a system whose steps met the condition: whatever runs is in the directory. -/
structure Sound (s : System) : Prop where
  held : ∀ r p, s.physical.get r = some p → p.stopped = false →
    ∃ e, s.directory.cache.get (getKey p.virtualId) = some e ∧ e.physicalRef = r
  entries : ∀ k e, s.directory.cache.get k = some e → k = getKey e.virtualId ∧ e.isActive = true ∧
    ∃ p, s.physical.get e.physicalRef = some p ∧ p.virtualId = e.virtualId
  fresh : ∀ r p, s.physical.get r = some p → r < s.nextRef
  returned : ∀ e ∈ s.returned, ∃ p, s.physical.get e.2 = some p ∧ p.virtualId = e.1

variable {s t : System} {d : ActorDirectory}

theorem sound_new (now : Int) (nodeId : String) (cacheSize maxIdleTime : JsNumber) :
    Sound (System.new now nodeId cacheSize maxIdleTime) where
  held _ _ h := by cases h
  entries _ _ h := by cases h
  fresh _ _ h := by cases h
  returned _ h := absurd h not_mem_nil

theorem Sound.law (h : Sound s) : Law s where
  single r r' p p' hr hr' hrun hrun' hsame := by
    obtain ⟨e, he, rfl⟩ := h.held r p hr hrun
    obtain ⟨e', he', rfl⟩ := h.held r' p' hr' hrun'
    rw [← hsame, he] at he'
    rw [some.inj he']
  returned := h.returned

theorem Sound.kept (h : Sound s) (hd : Kept s.directory d) : Sound { s with directory := d } := by
  refine { h with held := fun r p hr hrun => ?_, entries := fun k e he => ?_ }
  · obtain ⟨e, he, rfl⟩ := h.held r p hr hrun
    have hcore := hd (getKey p.virtualId)
    rw [he, map_some] at hcore
    obtain ⟨e', he', hsame⟩ := map_eq_some_iff.mp hcore
    exact ⟨e', he', (core_fields hsame).2.1⟩
  · have hcore := (hd k).symm
    rw [show d.cache.get k = some e from he, map_some] at hcore
    obtain ⟨e', he', hsame⟩ := map_eq_some_iff.mp hcore
    obtain ⟨hid, href, hactive⟩ := core_fields hsame
    obtain ⟨hk, hon, p, hp, hfor⟩ := h.entries k e' he'
    exact ⟨hk.trans (congrArg getKey hid), hactive ▸ hon, p, href ▸ hp, hfor.trans hid⟩

theorem Sound.forget (h : Sound s) {k : String}
    (hspent : ∀ e, s.directory.cache.get k = some e → s.spent e = true)
    (hd : ∀ j, d.cache.get j = if j = k then none else s.directory.cache.get j) :
    Sound { s with directory := d } := by
  refine { h with held := fun r p hr hrun => ?_, entries := fun j e he => ?_ }
  · obtain ⟨e, he, rfl⟩ := h.held r p hr hrun
    refine ⟨e, (hd _).trans ?_, rfl⟩
    by_cases hk : getKey p.virtualId = k
    · have hstopped := hspent e (hk ▸ he)
      rw [System.spent, hr, any_some, hrun] at hstopped
      cases hstopped
    · rw [if_neg hk, he]
  · rw [hd] at he
    split at he
    · cases he
    · exact h.entries j e he

theorem Sound.activate (h : Sound s) {e : VirtualActorEntry} {p : Physical}
    (hfree : s.directory.cache.get (getKey e.virtualId) = none) (hactive : e.isActive = true)
    (href : e.physicalRef = s.nextRef) (hp : p.virtualId = e.virtualId) (hd : ∀ j, d.cache.get j =
      if j = getKey e.virtualId then some e else s.directory.cache.get j) : Sound { s with
      directory := d, physical := s.physical.set s.nextRef p, nextRef := s.nextRef + 1
      returned := s.returned ++ [(e.virtualId, s.nextRef)] } := by
  have hkeep {r : Nat} {q : Physical} (hr : s.physical.get r = some q) :
      (s.physical.set s.nextRef p).get r = some q :=
    (get_set_ne _ _ (Nat.ne_of_lt (h.fresh r q hr))).trans hr
  have hnew {r : Nat} {q : Physical} (hr : (s.physical.set s.nextRef p).get r = some q) :
      r = s.nextRef ∧ q = p ∨ s.physical.get r = some q := by
    rw [get_set] at hr
    split at hr
    case isTrue hnext => exact .inl ⟨hnext, (some.inj hr).symm⟩
    case isFalse => exact .inr hr
  refine ⟨fun r q hr hrun => ?_, fun j e' he' => ?_, fun r q hr => ?_, fun e' he' => ?_⟩
  · rcases hnew hr with ⟨rfl, rfl⟩ | hold
    · exact ⟨e, (hd _).trans (by rw [hp, if_pos rfl]), href⟩
    · obtain ⟨e', he', hsame⟩ := h.held r q hold hrun
      refine ⟨e', (hd _).trans ?_, hsame⟩
      rw [if_neg, he']
      intro hk
      rw [hk, hfree] at he'
      cases he'
  · rw [hd] at he'
    split at he'
    case isTrue hj =>
      cases he'
      refine ⟨hj, hactive, p, ?_, hp⟩
      rw [href]
      exact get_set_self _ _ _
    case isFalse =>
      obtain ⟨hj, hon, q, hq, hfor⟩ := h.entries j e' he'
      exact ⟨hj, hon, q, hkeep hq, hfor⟩
  · rcases hnew hr with ⟨rfl, -⟩ | hold
    · exact Nat.lt_succ_self _
    · exact Nat.lt_succ_of_lt (h.fresh r q hold)
  · rcases mem_append.mp he' with he' | he'
    · obtain ⟨q, hq, hfor⟩ := h.returned e' he'
      exact ⟨q, hkeep hq, hfor⟩
    · obtain rfl := mem_singleton.mp he'
      exact ⟨p, get_set_self _ _ _, hp⟩

theorem Sound.stopPhysical (h : Sound s) (r : Nat) : Sound (s.stopPhysical r) := by
  unfold System.stopPhysical
  split
  case h_2 => exact h
  case h_1 p hp =>
    have hmap (x : Nat) (q : Physical) (hx : s.physical.get x = some q) :
        ∃ q', (s.physical.set r { p with stopped := true }).get x = some q' ∧
          q'.virtualId = q.virtualId := by
      by_cases hxr : x = r
      · subst hxr
        obtain rfl := some.inj (hp.symm.trans hx)
        exact ⟨_, get_set_self _ _ _, rfl⟩
      · exact ⟨q, (get_set_ne _ _ hxr).trans hx, rfl⟩
    have hback (x : Nat) (q : Physical)
        (hx : (s.physical.set r { p with stopped := true }).get x = some q) :
        x = r ∧ q.stopped = true ∨ s.physical.get x = some q := by
      rw [get_set] at hx
      split at hx
      case isTrue hxr => exact .inl ⟨hxr, by rw [← some.inj hx]⟩
      case isFalse => exact .inr hx
    refine ⟨fun x q hx hrun => ?_, fun k e he => ?_, fun x q hx => ?_, fun e he => ?_⟩
    · rcases hback x q hx with ⟨-, hstopped⟩ | hold
      · rw [hrun] at hstopped
        cases hstopped
      · exact h.held x q hold hrun
    · obtain ⟨hk, hon, q, hq, hfor⟩ := h.entries k e he
      obtain ⟨q', hq', hsame⟩ := hmap _ q hq
      exact ⟨hk, hon, q', hq', hsame.trans hfor⟩
    · rcases hback x q hx with ⟨rfl, -⟩ | hold
      · exact h.fresh x p hp
      · exact h.fresh x q hold
    · obtain ⟨q, hq, hfor⟩ := h.returned e he
      obtain ⟨q', hq', hsame⟩ := hmap _ q hq
      exact ⟨q', hq', hsame.trans hfor⟩

end Laws

section Steps

variable {s t : System}

theorem Sound.evict (h : Sound s)
    (hspent : ∀ k ∈ s.directory.victim, ∀ e ∈ s.directory.cache.get k, s.spent e = true) :
    Sound { s with directory := s.directory.evict } := by
  cases hvictim : s.directory.victim with
  | none =>
    refine h.kept fun k => ?_
    rw [LRUCache.evict, hvictim]
  | some lru =>
    by_cases hempty : lru = ""
    · refine h.kept fun k => ?_
      simp [LRUCache.evict, hvictim, hempty]
    · refine h.forget (hspent lru hvictim) fun j => ?_
      simp only [LRUCache.evict, hvictim, hempty, if_false]
      exact OrderedMap.get_delete _ _ _

theorem Sound.activateActor (h : Sound s) {v : VirtualActorId} (node : Option String)
    (hfree : s.directory.cache.get (getKey v) = none)
    (hspent : v.type ∈ s.machines → node ≠ none → ∀ k ∈ s.directory.victim,
      ∀ e ∈ s.directory.cache.get k, s.spent e = true) : Sound (s.activateActor v node) := by
  unfold System.activateActor
  split
  case isFalse => exact h
  case isTrue htype =>
    cases node with
    | none => exact h
    | some node =>
      have hget : LRUCache.get s.directory (getKey v) = (none, s.directory) := by
        rw [LRUCache.get, hfree]
      have hgone : s.directory.evict.cache.get (getKey v) = none := by
        rcases s.directory.get_evict (getKey v) with hsame | ⟨-, hnone⟩
        · exact hsame.trans hfree
        · exact hnone
      refine (h.evict (hspent htype (some_ne_none node))).activate
        (e := ⟨v, s.nextRef, node, s.now, 1, true⟩) (p := ⟨v, false⟩) hgone rfl rfl rfl fun j => ?_
      rw [ActorDirectory.set, hget, LRUCache.set_new _ hfree, get_set]

theorem Sound.getActor (h : Sound s) {v : VirtualActorId} (node : Option String)
    (hmeets : Meets s (.getActor v node)) : Sound (s.getActor v node) := by
  unfold System.getActor
  rcases get_cases s.directory s.now v with ⟨hfree, hget⟩ | ⟨e, e', he, hget, hcore, hkept⟩
  · rw [hget]
    exact h.activateActor node hfree (hmeets.2 hfree)
  · obtain ⟨-, href, hactive⟩ := core_fields hcore
    obtain ⟨-, hon, p, hp, hfor⟩ := h.entries _ e he
    generalize hd : s.directory.get s.now v = found at hget hkept
    obtain ⟨entry, d⟩ := found
    obtain rfl : entry = some e' := hget
    dsimp only
    rw [if_pos (hactive.trans hon)]
    refine { h.kept hkept with returned := fun x hx => ?_ }
    rcases mem_append.mp hx with hx | hx
    · exact h.returned x hx
    · obtain rfl := mem_singleton.mp hx
      exact ⟨p, href ▸ hp, hfor.trans (hmeets.1 e he)⟩

theorem Sound.deactivateActor (h : Sound s) (v : VirtualActorId) :
    Sound (s.deactivateActor v) ∧ Kept s.directory (s.deactivateActor v).directory := by
  unfold System.deactivateActor
  rcases get_cases s.directory s.now v with ⟨-, hget⟩ | ⟨e, e', -, hget, -, hkept⟩
  · rw [hget]
    exact ⟨h, Kept.refl _⟩
  · generalize hd : s.directory.get s.now v = found at hget hkept
    obtain ⟨entry, d⟩ := found
    obtain rfl : entry = some e' := hget
    have hsound := (h.kept hkept).stopPhysical e'.physicalRef
    have hdirectory : (({ s with directory := d } : System).stopPhysical e'.physicalRef).directory = d := by
      unfold System.stopPhysical
      split
      · rfl
      · rfl
    refine ⟨{ hsound with }, ?_⟩
    dsimp only
    rw [hdirectory]
    exact hkept

theorem Sound.moveActor (h : Sound s) {e : VirtualActorEntry}
    (he : (s.directory.cache.get (getKey e.virtualId)).map VirtualActorEntry.core = some e.core) :
    Sound (s.moveActor e) ∧ Kept s.directory (s.moveActor e).directory := by
  unfold System.moveActor
  split
  case h_2 => exact h.deactivateActor e.virtualId
  case h_1 target _ _ =>
    obtain ⟨old, hold, hcore⟩ := map_eq_some_iff.mp he
    have hget : (LRUCache.get s.directory (getKey e.virtualId)).2.cache = s.directory.cache :=
      s.directory.get_cache _
    have hkept : Kept s.directory
        (s.directory.set { e with node := target, lastAccessed := s.now }) := by
      intro k
      have hpresent : (LRUCache.get s.directory (getKey e.virtualId)).2.cache.get
          (getKey e.virtualId) = some old := by
        rw [hget]
        exact hold
      have hmoved : ({ e with node := target, lastAccessed := s.now } : VirtualActorEntry).core =
          old.core := hcore.symm
      have hset := kept_set _ hpresent hmoved k
      rw [hget] at hset
      exact hset
    exact ⟨h.kept hkept, hkept⟩

theorem Sound.removeNode (h : Sound s) (nodeId : String) : Sound (s.removeNode nodeId) := by
  have hmoves : ∀ (es : List VirtualActorEntry) (u : System), Sound u →
      (∀ e ∈ es, (u.directory.cache.get (getKey e.virtualId)).map VirtualActorEntry.core =
        some e.core) → Sound (es.foldl System.moveActor u) := by
    intro es
    induction es with
    | nil => exact fun u hu _ => hu
    | cons e es ih =>
      intro u hu hes
      obtain ⟨hmoved, hkept⟩ := hu.moveActor (hes e mem_cons_self)
      exact ih _ hmoved fun e' he' => (hkept _).trans (hes e' (mem_cons_of_mem e he'))
  refine hmoves _ _ { h with } fun e he => ?_
  obtain ⟨k, hk⟩ := mem_values_iff.mp (mem_filter.mp he).1
  have hkey := (h.entries k e hk).1
  subst hkey
  exact congrArg (Option.map VirtualActorEntry.core) hk

theorem Sound.cleanup (h : Sound s) (hmeets : Meets s .cleanup) :
    Sound { s with directory := s.directory.cleanup s.maxIdleTime s.now } := by
  have hdeletes : ∀ (es : List VirtualActorEntry) (d : ActorDirectory),
      Sound { s with directory := d } →
      (∀ e ∈ es, ∀ e', d.cache.get (getKey e.virtualId) = some e' → s.spent e' = true) →
      Sound { s with directory := es.foldl (fun d e => d.delete e.virtualId) d } := by
    intro es
    induction es with
    | nil => exact fun d hd _ => hd
    | cons e es ih =>
      intro d hd hes
      have hdelete (j : String) := LRUCache.get_delete d (getKey e.virtualId) j
      refine ih (d.delete e.virtualId) (hd.forget (hes e mem_cons_self) hdelete) ?_
      intro e' he' x hx
      rw [show (d.delete e.virtualId).cache.get (getKey e'.virtualId) = _ from hdelete _] at hx
      split at hx
      · cases hx
      · exact hes e' (mem_cons_of_mem e he') x hx
  refine hdeletes _ s.directory h fun e he e' he' => ?_
  obtain ⟨hmem, hidle⟩ := mem_filter.mp he
  obtain ⟨k, hk⟩ := mem_values_iff.mp hmem
  have hkey := (h.entries k e hk).1
  subst hkey
  obtain rfl := some.inj (hk.symm.trans he')
  exact hmeets e hmem hidle

theorem Sound.step (h : Sound s) {a : Action} (hmeets : Meets s a) (hstep : s.step a = some t) :
    Sound t := by
  cases a with
  | tick ms =>
    cases hstep
    exact { h with }
  | registerActorType actorType =>
    cases hstep
    exact { h with }
  | getActor v node =>
    cases hstep
    exact h.getActor node hmeets
  | deactivateActor v =>
    cases hstep
    exact (h.deactivateActor v).1
  | stopEnded i =>
    obtain ⟨⟨v, r⟩, hi, rfl⟩ := map_eq_some_iff.mp hstep
    have hforget := h.forget (d := s.directory.delete v) (hmeets (v, r) hi)
      (LRUCache.get_delete s.directory (getKey v))
    exact { hforget with }
  | addNode nodeId =>
    cases hstep
    unfold System.addNode
    split
    · exact h
    · exact { h with }
  | removeNode nodeId =>
    cases hstep
    exact h.removeNode nodeId
  | cleanup =>
    cases hstep
    exact h.cleanup hmeets

/-- In every run that forgets no running actor and looks no triple up under another's key, each
triple has one running actor at most, and what is returned was created for it. -/
theorem single_activation (now : Int) (nodeId : String) (cacheSize maxIdleTime : JsNumber)
    (actions : List Action)
    (h : Guarded System.step Meets (System.new now nodeId cacheSize maxIdleTime) actions) :
    Along System.step (fun _ _ t => Law t) (System.new now nodeId cacheSize maxIdleTime) actions :=
  along_of_guarded (fun _ _ _ hs hmeets hstep => ⟨hs.step hmeets hstep, (hs.step hmeets hstep).law⟩)
    (sound_new now nodeId cacheSize maxIdleTime) h

/-- Two triples, both looked up, and one deactivated and activated again. -/
theorem single_activation_twice :
    Along System.step (fun _ _ t => Law t) (System.new 1 "node" (.finite 2) (.finite 60))
      [.registerActorType "user", .getActor ⟨"user", "a", none⟩ (some "node"),
        .getActor ⟨"user", "b", some "p"⟩ (some "node"), .deactivateActor ⟨"user", "a", none⟩,
        .stopEnded 0, .getActor ⟨"user", "a", none⟩ (some "node")] :=
  single_activation 1 "node" (.finite 2) (.finite 60) _ (by decide +kernel)

/-- In a directory for one entry the second actor pushes the first out, which runs on when it is
activated again; and `a:b` and `c` make the key of `a` and `b:c`. -/
theorem eviction_and_joined_keys :
    (∃ t, exec System.step (System.new 1 "node" (.finite 1) (.finite 60))
      [.registerActorType "user", .getActor ⟨"user", "a", none⟩ (some "node"),
        .getActor ⟨"user", "b", none⟩ (some "node"),
        .getActor ⟨"user", "a", none⟩ (some "node")] = some t ∧ ¬ Law t) ∧
    ∃ t, exec System.step (System.new 1 "node" (.finite 9) (.finite 60))
      [.registerActorType "a", .getActor ⟨"a", "b:c", none⟩ (some "node"),
        .getActor ⟨"a:b", "c", none⟩ (some "node")] = some t ∧ ¬ Law t := by
  constructor
  · have hrun : (exec System.step (System.new 1 "node" (.finite 1) (.finite 60))
        [.registerActorType "user", .getActor ⟨"user", "a", none⟩ (some "node"),
          .getActor ⟨"user", "b", none⟩ (some "node"),
          .getActor ⟨"user", "a", none⟩ (some "node")]).any (fun t =>
        decide (t.physical.get 0 = some ⟨⟨"user", "a", none⟩, false⟩ ∧
          t.physical.get 2 = some ⟨⟨"user", "a", none⟩, false⟩)) = true := by decide +kernel
    obtain ⟨t, ht, hboth⟩ := (Option.any_eq_true _ _).mp hrun
    obtain ⟨hfirst, hsecond⟩ := of_decide_eq_true hboth
    exact ⟨t, ht, fun hlaw => absurd (hlaw.single 0 2 _ _ hfirst hsecond rfl rfl rfl) (by decide)⟩
  · have hrun : (exec System.step (System.new 1 "node" (.finite 9) (.finite 60))
        [.registerActorType "a", .getActor ⟨"a", "b:c", none⟩ (some "node"),
          .getActor ⟨"a:b", "c", none⟩ (some "node")]).any (fun t =>
        decide ((⟨"a:b", "c", none⟩, 0) ∈ t.returned ∧
          t.physical.get 0 = some ⟨⟨"a", "b:c", none⟩, false⟩)) = true := by decide +kernel
    obtain ⟨t, ht, hboth⟩ := (Option.any_eq_true _ _).mp hrun
    obtain ⟨hreturned, hfirst⟩ := of_decide_eq_true hboth
    refine ⟨t, ht, fun hlaw => ?_⟩
    obtain ⟨p, hp, hfor⟩ := hlaw.returned _ hreturned
    rw [hfirst] at hp
    cases hp
    exact absurd hfor (by decide)

end Steps

end ActorWeb.VirtualActors
