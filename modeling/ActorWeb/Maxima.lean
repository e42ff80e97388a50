import Mathlib.Order.Defs.LinearOrder

/-! Keeping the greatest of the records seen so far. -/

namespace ActorWeb.Maxima

open List Std

variable {α : Type} (cmp : α → α → Ordering)

def keep : Option α → α → Option α
  | none, r => some r
  | some kept, r => if cmp r kept = .gt then some r else some kept

def IsMaximum (records : List α) : Option α → Prop
  | none => records = []
  | some m => m ∈ records ∧ ∀ r ∈ records, (cmp r m).isLE

variable {cmp} {records records' : List α} {r : α} {kept : Option α}

theorem isLE_of_ne_gt {a b : α} (h : cmp a b ≠ .gt) : (cmp a b).isLE := by
  cases heq : cmp a b with
  | lt | eq => rfl
  | gt => exact absurd heq h

theorem IsMaximum.of_same (h : IsMaximum cmp records kept)
    (hsame : ∀ r, r ∈ records ↔ r ∈ records') : IsMaximum cmp records' kept := by
  cases kept with
  | none =>
    subst h
    exact eq_nil_iff_forall_not_mem.mpr fun r hr =>
      absurd ((hsame r).mpr hr) not_mem_nil
  | some m => exact ⟨(hsame m).mp h.1, fun r hr => h.2 r ((hsame r).mpr hr)⟩

variable [TransCmp cmp]

theorem IsMaximum.keep (h : IsMaximum cmp records kept) :
    IsMaximum cmp (records ++ [r]) (keep cmp kept r) := by
  cases kept with
  | none =>
    subst h
    refine ⟨mem_singleton_self r, fun other hother => ?_⟩
    rw [mem_singleton.mp hother]
    exact ReflCmp.isLE_rfl
  | some m =>
    obtain ⟨hm, hmax⟩ := h
    by_cases habove : cmp r m = .gt
    · rw [Maxima.keep, if_pos habove]
      have hswap : cmp m r = (cmp r m).swap := OrientedCmp.eq_swap
      have hle : (cmp m r).isLE := by
        rw [hswap, habove]
        rfl
      refine ⟨mem_append_right _ (mem_singleton_self r), fun other hother => ?_⟩
      obtain hother | hother := mem_append.mp hother
      · exact TransCmp.isLE_trans (hmax other hother) hle
      · rw [mem_singleton.mp hother]
        exact ReflCmp.isLE_rfl
    · rw [Maxima.keep, if_neg habove]
      refine ⟨mem_append_left _ hm, fun other hother => ?_⟩
      obtain hother | hother := mem_append.mp hother
      · exact hmax other hother
      · rw [mem_singleton.mp hother]
        exact isLE_of_ne_gt habove

theorem IsMaximum.cofinal {others : List α} (h : IsMaximum cmp (records ++ others) kept)
    (hamong : ∀ r ∈ others, r ∈ records') (hbound : ∀ r ∈ records', ∃ s ∈ others, (cmp r s).isLE) :
    IsMaximum cmp (records ++ records') kept := by
  cases kept with
  | none =>
    obtain ⟨hnone, hothers⟩ := append_eq_nil_iff.mp h
    have hrecords' : records' = [] := eq_nil_iff_forall_not_mem.mpr fun r hr => by
      obtain ⟨s, hs, -⟩ := hbound r hr
      exact absurd (hothers ▸ hs) not_mem_nil
    rw [hnone, hrecords']
    rfl
  | some m =>
    obtain ⟨hm, hmax⟩ := h
    refine ⟨mem_append.mpr ((mem_append.mp hm).imp_right (hamong m)), fun r hr => ?_⟩
    obtain hr | hr := mem_append.mp hr
    · exact hmax r (mem_append_left _ hr)
    · obtain ⟨s, hs, hle⟩ := hbound r hr
      exact TransCmp.isLE_trans hle (hmax s (mem_append_right _ hs))

theorem IsMaximum.congr (h : IsMaximum cmp records kept) {kept' : Option α}
    (h' : IsMaximum cmp records' kept') (hsame : ∀ r, r ∈ records ↔ r ∈ records') :
    Option.Rel (fun a b => cmp a b = .eq) kept kept' := by
  cases kept with
  | none =>
    cases kept' with
    | none => exact .none
    | some m' => exact absurd ((hsame m').mpr h'.1) (h ▸ not_mem_nil)
  | some m =>
    cases kept' with
    | none => exact absurd ((hsame m).mp h.1) (h' ▸ not_mem_nil)
    | some m' =>
      refine .some (Ordering.eq_eq_of_isLE_of_isLE_swap (h'.2 m ((hsame m).mp h.1)) ?_)
      rw [← OrientedCmp.eq_swap]
      exact h.2 m' ((hsame m').mpr h'.1)

/-- A record is above a maximum exactly if it is above all the records. -/
theorem IsMaximum.gt_iff (h : IsMaximum cmp records kept) :
    (∀ m, kept = some m → cmp r m = .gt) ↔ ∀ other ∈ records, cmp r other = .gt := by
  cases kept with
  | none =>
    subst h
    simp
  | some m =>
    obtain ⟨hm, hmax⟩ := h
    refine ⟨fun habove other hother => ?_, fun hall m' heq => hall m' (Option.some.inj heq ▸ hm)⟩
    refine TransCmp.gt_of_gt_of_isGE (habove m rfl) ?_
    rw [OrientedCmp.isGE_iff_isLE]
    exact hmax other hother

end ActorWeb.Maxima
