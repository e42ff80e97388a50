import ActorWeb.Trace

/-! Numbers that leave none out: each is at most one above the highest before it. -/

namespace ActorWeb.SequenceNumbers

open Trace

def highest (n : Nat) (l : List Nat) : Nat := l.foldl max n

def Rising (n : Nat) (l : List Nat) : Prop := Disciplined (fun pre k => k ≤ highest n pre + 1) l

variable {n k : Nat} {l l' : List Nat}

theorem highest_append (n : Nat) (l l' : List Nat) :
    highest n (l ++ l') = highest (highest n l) l' := List.foldl_append

theorem highest_concat (n : Nat) (l : List Nat) (k : Nat) :
    highest n (l ++ [k]) = max (highest n l) k := highest_append n l [k]

theorem le_highest (n : Nat) (l : List Nat) : n ≤ highest n l := by
  induction l generalizing n with
  | nil => exact Nat.le_refl n
  | cons k l ih => exact (Nat.le_max_left n k).trans (ih (max n k))

theorem mem_le_highest (n : Nat) (h : k ∈ l) : k ≤ highest n l := by
  induction l generalizing n with
  | nil => cases h
  | cons j l ih =>
    obtain rfl | h := List.mem_cons.mp h
    · exact (Nat.le_max_right n k).trans (le_highest _ l)
    · exact ih (max n j) h

theorem rising_nil : Rising n [] := disciplined_nil

theorem rising_concat : Rising n (l ++ [k]) ↔ Rising n l ∧ k ≤ highest n l + 1 := disciplined_concat

theorem rising_cons : Rising n (k :: l) ↔ k ≤ n + 1 ∧ Rising (max n k) l := disciplined_cons

theorem rising_append : Rising n (l ++ l') ↔ Rising n l ∧ Rising (highest n l) l' := by
  induction l generalizing n with
  | nil => exact (and_iff_right rising_nil).symm
  | cons k l ih =>
    rw [List.cons_append, rising_cons, rising_cons, ih, and_assoc]
    rfl

theorem highest_skip (hk : k ≤ highest n l) : highest n (l ++ k :: l') = highest n (l ++ l') := by
  rw [highest_append, highest_append]
  exact congrArg (highest · l') (Nat.max_eq_left hk)

theorem Rising.skip (hk : k ≤ highest n l) (h : Rising n (l ++ k :: l')) : Rising n (l ++ l') := by
  rw [rising_append, rising_cons, Nat.max_eq_left hk] at h
  exact rising_append.mpr ⟨h.1, h.2.2⟩

end ActorWeb.SequenceNumbers
