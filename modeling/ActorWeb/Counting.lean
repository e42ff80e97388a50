import Mathlib.Data.List.Basic

namespace ActorWeb.Counting

open List

variable {α β : Type} [DecidableEq α]

variable {f : β → List α} {l : List β} {i : Nat} {a : β}

theorem count_flatMap_set (b : β) (h : l[i]? = some a) (x : α) :
    ((l.set i b).flatMap f).count x + (f a).count x = (l.flatMap f).count x + (f b).count x := by
  induction l generalizing i with
  | nil => cases h
  | cons c l ih =>
    cases i with
    | zero =>
      cases h
      simp only [set_cons_zero, flatMap_cons, count_append]
      omega
    | succ i =>
      have hrest := ih (i := i) h
      simp only [set_cons_succ, flatMap_cons, count_append]
      omega

theorem count_le_flatMap (h : l[i]? = some a) (x : α) : (f a).count x ≤ (l.flatMap f).count x := by
  induction l generalizing i with
  | nil => cases h
  | cons c l ih =>
    rw [flatMap_cons, count_append]
    cases i with
    | zero =>
      cases h
      omega
    | succ i =>
      have hle := ih (i := i) h
      omega

theorem part_unique {j : Nat} {b : β} {x : α}
    (hi : l[i]? = some a) (hj : l[j]? = some b) (ha : x ∈ f a) (hb : x ∈ f b)
    (hcount : (l.flatMap f).count x ≤ 1) : i = j := by
  induction l generalizing i j with
  | nil => cases hi
  | cons c l ih =>
    rw [flatMap_cons, count_append] at hcount
    have hpos : ∀ {y}, x ∈ f y → 1 ≤ (f y).count x := fun h => count_pos_iff.mpr h
    cases i with
    | zero =>
      cases hi
      cases j with
      | zero => rfl
      | succ j =>
        have hle := count_le_flatMap (f := f) (l := l) (i := j) hj x
        have h₁ := hpos ha
        have h₂ := hpos hb
        omega
    | succ i =>
      cases j with
      | zero =>
        cases hj
        have hle := count_le_flatMap (f := f) (l := l) (i := i) hi x
        have h₁ := hpos ha
        have h₂ := hpos hb
        omega
      | succ j => exact congrArg Nat.succ (ih hi hj (Nat.le_trans (Nat.le_add_left _ _) hcount))

theorem countP_set_add {p : β → Bool} {b : β} (h : l[i]? = some a) :
    (l.set i b).countP p + (if p a then 1 else 0) = l.countP p + if p b then 1 else 0 := by
  obtain ⟨hi, rfl⟩ := List.getElem?_eq_some_iff.mp h
  have hle := boole_getElem_le_countP (p := p) hi
  rw [countP_set hi]
  omega

end ActorWeb.Counting
