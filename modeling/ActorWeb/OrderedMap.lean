import Mathlib.Data.List.Nodup

namespace ActorWeb

open List

/-- A finite map that remembers the order in which its keys were first set. -/
structure OrderedMap (K V : Type) where
  entries : List (K × V)
  nodup : (entries.map Prod.fst).Nodup

namespace OrderedMap

variable {K V : Type}

def empty : OrderedMap K V := ⟨[], nodup_nil⟩

def keys (m : OrderedMap K V) : List K := m.entries.map Prod.fst

def values (m : OrderedMap K V) : List V := m.entries.map Prod.snd

def filter (p : K → V → Bool) (m : OrderedMap K V) : OrderedMap K V :=
  ⟨m.entries.filter fun e => p e.1 e.2, (filter_sublist.map _).nodup m.nodup⟩

def mapValues (f : V → V) (m : OrderedMap K V) : OrderedMap K V :=
  ⟨m.entries.map fun e => (e.1, f e.2), by rw [map_map]; exact m.nodup⟩

variable [DecidableEq K]

def get (m : OrderedMap K V) (k : K) : Option V :=
  (m.entries.find? fun e => e.1 = k).map Prod.snd

def has (m : OrderedMap K V) (k : K) : Bool := (m.get k).isSome

def delete (m : OrderedMap K V) (k : K) : OrderedMap K V := m.filter fun k' _ => k' ≠ k

variable {m : OrderedMap K V} {k : K} {v : V}

theorem get_eq_some_iff : m.get k = some v ↔ (k, v) ∈ m.entries := by
  obtain ⟨entries, hn⟩ := m
  induction entries with
  | nil => simp [get]
  | cons e entries ih =>
    have hrest := ih (nodup_cons.mp hn).2
    simp only [get, find?_cons] at hrest ⊢
    by_cases he : e.1 = k
    · have hfresh : (k, v) ∉ entries := fun hm =>
        (nodup_cons.mp hn).1 (he ▸ mem_map_of_mem (f := Prod.fst) hm)
      simp only [he, decide_true, Option.map_some, Option.some.injEq, mem_cons, hfresh,
        or_false, Prod.ext_iff, true_and, eq_comm]
    · have hne : (k, v) ≠ e := fun h => he (h ▸ rfl)
      simpa only [he, decide_false, mem_cons, hne, false_or] using hrest

theorem get_eq_none_iff : m.get k = none ↔ k ∉ m.keys := by
  simp only [get, Option.map_eq_none_iff, find?_eq_none, decide_eq_true_eq, keys,
    mem_map, not_exists, not_and]

theorem mem_values_iff : v ∈ m.values ↔ ∃ k, m.get k = some v := by
  simp [values, get_eq_some_iff]

/-- Setting a present key keeps its place; a new key goes to the end. -/
def set (m : OrderedMap K V) (k : K) (v : V) : OrderedMap K V :=
  if h : k ∈ m.keys then
    ⟨m.entries.map fun e => (e.1, if e.1 = k then v else e.2), by
      rw [map_map]; exact m.nodup⟩
  else
    ⟨m.entries ++ [(k, v)], by
      simpa [nodup_append, keys] using And.intro m.nodup (fun a b hb he => h (by
        simpa [keys] using ⟨b, he ▸ hb⟩))⟩

@[simp] theorem get_empty (k : K) : (empty : OrderedMap K V).get k = none := rfl

@[simp] theorem get_set_self (m : OrderedMap K V) (k : K) (v : V) : (m.set k v).get k = some v := by
  rw [get_eq_some_iff]
  unfold set
  split
  case isTrue h =>
    obtain ⟨e, he, rfl⟩ := mem_map.mp h
    exact mem_map.mpr ⟨e, he, by simp⟩
  case isFalse => simp

theorem get_set_ne (m : OrderedMap K V) {j : K} (v : V) (h : j ≠ k) :
    (m.set k v).get j = m.get j := by
  refine Option.ext fun w => ?_
  rw [get_eq_some_iff, get_eq_some_iff]
  unfold set
  split
  case isTrue =>
    simp only [mem_map, Prod.mk.injEq, Prod.exists]
    constructor
    · rintro ⟨a, b, hab, rfl, hb⟩
      rw [if_neg h] at hb
      exact hb ▸ hab
    · exact fun hm => ⟨j, w, hm, rfl, if_neg h⟩
  case isFalse => simp [h]

theorem get_set (m : OrderedMap K V) (k j : K) (v : V) :
    (m.set k v).get j = if j = k then some v else m.get j := by
  by_cases h : j = k
  · subst h; simp
  · rw [get_set_ne m v h, if_neg h]

theorem get_filter (p : K → V → Bool) (m : OrderedMap K V) (k : K) :
    (m.filter p).get k = (m.get k).filter (p k) := by
  refine Option.ext fun w => ?_
  simp only [get_eq_some_iff, filter, mem_filter, Option.filter_eq_some_iff]

theorem get_delete (m : OrderedMap K V) (k j : K) :
    (m.delete k).get j = if j = k then none else m.get j := by
  rw [delete, get_filter]
  by_cases h : j = k
  · subst h; simp
  · cases m.get j <;> simp [h]

@[simp] theorem get_delete_self (m : OrderedMap K V) (k : K) : (m.delete k).get k = none := by
  rw [get_delete, if_pos rfl]

theorem get_delete_ne (m : OrderedMap K V) {j : K} (h : j ≠ k) : (m.delete k).get j = m.get j := by
  rw [get_delete, if_neg h]

theorem delete_entries_of_not_mem (h : k ∉ m.keys) : (m.delete k).entries = m.entries := by
  refine filter_eq_self.mpr fun e he => decide_eq_true fun heq => h ?_
  exact mem_map.mpr ⟨e, he, heq⟩

theorem delete_set_entries (m : OrderedMap K V) (k : K) (v : V) :
    ((m.delete k).set k v).entries = (m.delete k).entries ++ [(k, v)] := by
  have hfresh : k ∉ (m.delete k).keys := get_eq_none_iff.mp (by simp)
  rw [set, dif_neg hfresh]

theorem set_entries_perm (m : OrderedMap K V) (k : K) (v : V) :
    (m.set k v).entries.Perm ((m.delete k).entries ++ [(k, v)]) := by
  rw [← delete_set_entries]
  refine (perm_ext_iff_of_nodup (.of_map _ (m.set k v).nodup)
    (.of_map _ ((m.delete k).set k v).nodup)).mpr ?_
  rintro ⟨j, w⟩
  rw [← get_eq_some_iff, ← get_eq_some_iff, get_set, get_set, get_delete]
  split <;> rfl

theorem get_mapValues (f : V → V) (m : OrderedMap K V) (k : K) :
    (m.mapValues f).get k = (m.get k).map f := by
  simp only [get, mapValues, find?_map, Option.map_map]
  rfl

def size (m : OrderedMap K V) : Nat := m.entries.length

theorem size_delete_eq (m : OrderedMap K V) (k : K) :
    (m.delete k).size = (m.entries.filter fun e => e.1 ≠ k).length := rfl

theorem size_set (m : OrderedMap K V) (k : K) (v : V) :
    (m.set k v).size = if (m.get k).isSome then m.size else m.size + 1 := by
  by_cases h : k ∈ m.keys
  · have hsome : (m.get k).isSome = true :=
      Option.isSome_iff_ne_none.mpr fun hnone => get_eq_none_iff.mp hnone h
    rw [if_pos hsome, set, dif_pos h, size, length_map, size]
  · rw [get_eq_none_iff.mpr h, set, dif_neg h, size, length_append]
    rfl

theorem size_delete (h : m.get k = some v) : (m.delete k).size + 1 = m.size := by
  have hmem := get_eq_some_iff.mp h
  obtain ⟨before, after, hsplit⟩ := append_of_mem hmem
  have hn := m.nodup
  simp only [hsplit, map_append, map_cons, nodup_append, nodup_cons,
    mem_map, mem_cons, not_exists, not_and] at hn
  have hkeep (es : List (K × V)) (hes : ∀ e ∈ es, e.1 ≠ k) :
      es.filter (fun e => decide (e.1 ≠ k)) = es :=
    filter_eq_self.mpr fun e he => decide_eq_true (hes e he)
  have hbefore := hkeep before fun e he hk => hn.2.2 e.1 ⟨e, he, rfl⟩ k (.inl rfl) hk
  have hafter := hkeep after fun e he hk => hn.2.1.1 e he hk
  rw [size_delete_eq, size, hsplit, filter_append, hbefore, filter_cons,
    if_neg (by simp), hafter, length_append, length_append, length_cons]
  omega

end OrderedMap

end ActorWeb
