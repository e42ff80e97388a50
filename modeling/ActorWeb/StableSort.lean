import Mathlib.Data.List.Sort

/-! Sorting that keeps the order of equal elements. -/

namespace ActorWeb.StableSort

open List

variable {α : Type} {le : α → α → Bool} {R : α → α → Prop} {l : List α}

theorem filter_mergeSort (trans : ∀ a b c, le a b → le b c → le a c)
    (total : ∀ a b, le a b || le b a) {p : α → Bool}
    (hp : ∀ a ∈ l, ∀ b ∈ l, p a = true → p b = true → le a b = true) :
    (l.mergeSort le).filter p = l.filter p := by
  have hsorted : (l.filter p).Pairwise fun a b => le a b = true := by
    refine pairwise_of_forall_mem_list fun a ha b hb => ?_
    obtain ⟨ha, hpa⟩ := mem_filter.mp ha
    obtain ⟨hb, hpb⟩ := mem_filter.mp hb
    exact hp a ha b hb hpa hpb
  have hsublist : (l.filter p).Sublist ((l.mergeSort le).filter p) := by
    have hkept := (sublist_mergeSort trans total hsorted filter_sublist).filter p
    simpa only [filter_filter, Bool.and_self] using hkept
  refine (hsublist.eq_of_length ?_).symm
  exact ((mergeSort_perm l le).filter p).length_eq.symm

/-- A sorted list is in order, and in the old order where that leaves a choice. -/
theorem pairwise_stable (trans : ∀ a b c, le a b → le b c → le a c)
    (total : ∀ a b, le a b || le b a) (hl : l.Pairwise R) :
    (l.mergeSort le).Pairwise fun a b => le a b = true ∧ (le b a = true → R a b) := by
  refine pairwise_iff_forall_sublist.mpr fun {a b} hab => ?_
  have hle := pairwise_iff_forall_sublist.mp (pairwise_mergeSort trans total l) hab
  refine ⟨hle, fun hge => ?_⟩
  have hfilter : (l.mergeSort le).filter (fun x => le a x && le x a) =
      l.filter fun x => le a x && le x a := by
    refine filter_mergeSort trans total fun x _ y _ hx hy => ?_
    rw [Bool.and_eq_true] at hx hy
    exact trans x a y hx.2 hy.1
  have haa : le a a = true := by simpa using total a a
  have hpair : [a, b].Sublist (l.filter fun x => le a x && le x a) := by
    rw [← hfilter]
    have hkept := hab.filter fun x => le a x && le x a
    rwa [filter_eq_self.mpr (by simp [haa, hle, hge])] at hkept
  exact pairwise_iff_forall_sublist.mp hl (hpair.trans filter_sublist)

end ActorWeb.StableSort
