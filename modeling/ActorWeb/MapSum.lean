import ActorWeb.OrderedMap

namespace ActorWeb.OrderedMap

open List

variable {K V : Type} {f g : V → Nat}

def sumBy (f : V → Nat) (m : OrderedMap K V) : Nat := m.values.foldl (fun total v => total + f v) 0

theorem foldl_add_init (f : V → Nat) (vs : List V) (n : Nat) :
    vs.foldl (fun total v => total + f v) n = n + vs.foldl (fun total v => total + f v) 0 := by
  induction vs generalizing n with
  | nil => rfl
  | cons v vs ih =>
    rw [foldl_cons, foldl_cons, ih (n + f v), ih (0 + f v)]
    omega

@[simp] theorem sumBy_empty (f : V → Nat) : (empty : OrderedMap K V).sumBy f = 0 := rfl

variable [DecidableEq K]

theorem delete_entries_of_fresh {es : List (K × V)} {k : K} (h : k ∉ es.map Prod.fst) :
    (es.filter fun e => e.1 ≠ k) = es := by
  refine filter_eq_self.mpr fun e he => ?_
  have hne : e.1 ≠ k := fun heq => h (heq ▸ mem_map_of_mem he)
  simpa using hne

theorem sumBy_delete (f : V → Nat) (m : OrderedMap K V) (k : K) :
    m.sumBy f = (m.delete k).sumBy f + (m.get k).elim 0 f := by
  obtain ⟨es, hn⟩ := m
  induction es with
  | nil => rfl
  | cons e es ih =>
    obtain ⟨hfresh, hrest⟩ := nodup_cons.mp hn
    have htail := ih hrest
    simp only [sumBy, values, delete, filter, get, map_cons, foldl_cons,
      find?_cons] at htail ⊢
    rw [foldl_add_init]
    by_cases he : e.1 = k
    · subst he
      rw [filter_cons_of_neg (by simp), delete_entries_of_fresh hfresh]
      simp
      omega
    · rw [filter_cons_of_pos (by simpa using he), map_cons, foldl_cons,
        foldl_add_init f _ (0 + f e.2), htail]
      simp only [he, decide_false]
      omega

theorem delete_set (m : OrderedMap K V) (k : K) (v : V) :
    ((m.set k v).delete k).entries = (m.delete k).entries := by
  simp only [delete, filter, set]
  split
  case isTrue =>
    rw [filter_map]
    refine (map_congr_left fun e he => ?_).trans (map_id _)
    have hne : e.1 ≠ k := by simpa using (mem_filter.mp he).2
    simp [hne]
  case isFalse => simp

theorem sumBy_set (f : V → Nat) (m : OrderedMap K V) (k : K) (v : V) :
    (m.set k v).sumBy f = (m.delete k).sumBy f + f v := by
  rw [sumBy_delete f (m.set k v) k, get_set_self, sumBy, values, delete_set]
  rfl

/-- Setting a key replaces the quantity of its value; a missing value counts like `z`. -/
theorem sumBy_set_add (f : V → Nat) (m : OrderedMap K V) (k : K) (v : V) {z : V} (hz : f z = 0) :
    (m.set k v).sumBy f + f ((m.get k).getD z) = m.sumBy f + f v := by
  rw [sumBy_set, sumBy_delete f m k]
  cases m.get k with
  | none =>
    rw [Option.getD_none, Option.elim_none, hz]
    omega
  | some w =>
    rw [Option.getD_some, Option.elim_some]
    omega

theorem sumBy_le {m' m : OrderedMap K V}
    (h : ∀ k v, m'.get k = some v → g v ≠ 0 → m.get k = some v ∧ g v ≤ f v) :
    m'.sumBy g ≤ m.sumBy f := by
  obtain ⟨es, hn⟩ := m'
  induction es generalizing m with
  | nil => exact Nat.zero_le _
  | cons e es ih =>
    obtain ⟨hfresh, hrest⟩ := nodup_cons.mp hn
    have hcons : sumBy g ⟨e :: es, hn⟩ = g e.2 + sumBy g ⟨es, hrest⟩ := by
      simp only [sumBy, values, map_cons, foldl_cons]
      rw [foldl_add_init, Nat.zero_add]
    have hmem : ∀ k v, (⟨es, hrest⟩ : OrderedMap K V).get k = some v →
        k ≠ e.1 ∧ (⟨e :: es, hn⟩ : OrderedMap K V).get k = some v := by
      intro k v hk
      rw [get_eq_some_iff] at hk ⊢
      refine ⟨fun heq => hfresh (heq ▸ mem_map_of_mem (f := Prod.fst) hk), ?_⟩
      exact mem_cons_of_mem e hk
    have he : (⟨e :: es, hn⟩ : OrderedMap K V).get e.1 = some e.2 :=
      get_eq_some_iff.mpr mem_cons_self
    rw [hcons]
    by_cases hzero : g e.2 = 0
    · rw [hzero, Nat.zero_add]
      exact ih hrest fun k v hk => h k v (hmem k v hk).2
    · obtain ⟨hget, hle⟩ := h e.1 e.2 he hzero
      have htail : sumBy g ⟨es, hrest⟩ ≤ (m.delete e.1).sumBy f := by
        refine ih hrest fun k v hk hv => ?_
        obtain ⟨hne, hk'⟩ := hmem k v hk
        rw [get_delete_ne m hne]
        exact h k v hk' hv
      have hm := sumBy_delete f m e.1
      rw [hget, Option.elim_some] at hm
      omega

end ActorWeb.OrderedMap
