import Mathlib.Data.List.Range

/-! Lists whose items carry consecutive numbers. -/

namespace ActorWeb.Numbered

open List

variable {α : Type} {number : α → Nat} {xs ys : List α} {n m : Nat}

/-- The items carry the last numbers up to `n`, in order. Numbers start at one. -/
structure EndsAt (number : α → Nat) (xs : List α) (n : Nat) : Prop where
  numbers : xs.map number = List.range' (n + 1 - xs.length) xs.length
  le : xs.length ≤ n

theorem EndsAt.nil (n : Nat) : EndsAt number ([] : List α) n := ⟨rfl, Nat.zero_le n⟩

theorem EndsAt.concat (h : EndsAt number xs n) {x : α} (hx : number x = n + 1) :
    EndsAt number (xs ++ [x]) (n + 1) := by
  have hle := h.le
  refine ⟨?_, by simpa using hle⟩
  have hstart : n + 1 + 1 - (xs ++ [x]).length = n + 1 - xs.length := by
    rw [length_append, length_singleton]
    omega
  rw [hstart, map_append, h.numbers, length_append, length_singleton,
    range'_concat, map_singleton, hx, Nat.one_mul,
    Nat.sub_add_cancel (by omega : xs.length ≤ n + 1)]

theorem EndsAt.drop (h : EndsAt number xs n) (k : Nat) : EndsAt number (xs.drop k) n := by
  have hle := h.le
  refine ⟨?_, by rw [length_drop]; omega⟩
  rw [map_drop, h.numbers, drop_range', length_drop]
  by_cases hk : k ≤ xs.length
  · congr 1
    omega
  · rw [Nat.sub_eq_zero_of_le (by omega : xs.length ≤ k)]
    rfl

theorem EndsAt.getLast? (h : EndsAt number xs n) {x : α} (hx : xs.getLast? = some x) :
    number x = n := by
  obtain ⟨ys, rfl⟩ := getLast?_eq_some_iff.mp hx
  have hle := h.le
  have hlast := congrArg List.getLast? h.numbers
  rw [length_append, length_singleton] at hle hlast
  rw [map_append, map_singleton, getLast?_concat, range'_concat,
    getLast?_concat, Option.some.injEq] at hlast
  omega

theorem EndsAt.mem (h : EndsAt number xs n) : m ∈ xs.map number ↔ n < m + xs.length ∧ m ≤ n := by
  have hle := h.le
  rw [h.numbers, mem_range'_1]
  omega

theorem EndsAt.filter (h : EndsAt number xs n) (m : Nat) :
    xs.filter (fun x => m ≤ number x) = xs.drop (m + xs.length - (n + 1)) := by
  induction xs with
  | nil => simp
  | cons x xs ih =>
    have hle := h.le
    have htail : EndsAt number xs n := h.drop 1
    have hhead : number x = n - xs.length := by
      have := congrArg List.head? h.numbers
      rw [length_cons, range'_succ, map_cons] at this
      simpa using this
    rw [length_cons] at hle ⊢
    by_cases hm : m ≤ number x
    · have hall : xs.filter (fun x => m ≤ number x) = xs := by
        rw [ih htail, (by omega : m + xs.length - (n + 1) = 0), drop_zero]
      rw [filter_cons_of_pos (by simpa using hm), hall,
        (by omega : m + (xs.length + 1) - (n + 1) = 0), drop_zero]
    · rw [filter_cons_of_neg (by simpa using hm), ih htail,
        (by omega : m + (xs.length + 1) - (n + 1) = m + xs.length - (n + 1) + 1),
        drop_succ_cons]

/-- The items from a number that is carried on carry all numbers from it to the last. -/
theorem EndsAt.filter_numbers (h : EndsAt number xs n) (hm : m ∈ xs.map number) :
    (xs.filter fun x => m ≤ number x).map number = List.range' m (n + 1 - m) := by
  have hbounds := h.mem.mp hm
  have hle := h.le
  rw [h.filter, (h.drop _).numbers, length_drop]
  congr 1 <;> omega

end ActorWeb.Numbered
