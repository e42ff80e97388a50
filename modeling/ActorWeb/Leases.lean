import Mathlib.Data.List.Nodup
import Mathlib.Data.List.Perm.Basic

namespace ActorWeb

open List

/-- What was ever acquired, with the number it was given, and what of it was
released, once for every release. -/
structure Leases (ρ : Type) where
  (acquired released : List (ρ × Nat))

namespace Leases

variable {ρ : Type} {r : ρ} {x : ρ × Nat} {l : Leases ρ} {held held' : List (ρ × Nat)}

def none : Leases ρ := ⟨[], []⟩

def fresh (l : Leases ρ) (r : ρ) : ρ × Nat := (r, l.acquired.length)

def acquire (l : Leases ρ) (r : ρ) : Leases ρ := { l with acquired := l.acquired ++ [l.fresh r] }

def release (l : Leases ρ) (x : ρ × Nat) : Leases ρ := { l with released := l.released ++ [x] }

def releaseAll (l : Leases ρ) (xs : List (ρ × Nat)) : Leases ρ :=
  { l with released := l.released ++ xs }

def live [DecidableEq ρ] (l : Leases ρ) : List (ρ × Nat) :=
  l.acquired.filter fun x => x ∉ l.released

def Settled (l : Leases ρ) : Prop := l.acquired.Nodup ∧ l.released.Perm l.acquired

/-- Each of the resources is up exactly once and nothing else is: what is not up
was released exactly once. -/
def Up [DecidableEq ρ] (l : Leases ρ) (resources : List ρ) : Prop :=
  l.acquired.Nodup ∧ (l.released ++ l.live).Perm l.acquired ∧
    (l.live.map Prod.fst).Perm resources

instance [DecidableEq ρ] : Decidable l.Settled :=
  inferInstanceAs (Decidable (_ ∧ _))

instance [DecidableEq ρ] (resources : List ρ) : Decidable (l.Up resources) :=
  inferInstanceAs (Decidable (_ ∧ _ ∧ _))

/-- The leases still to be released are those of `held`, each of them once. -/
structure Balanced (l : Leases ρ) (held : List (ρ × Nat)) : Prop where
  numbered : ∀ x ∈ l.acquired, x.2 < l.acquired.length
  nodup : l.acquired.Nodup
  perm : l.acquired.Perm (l.released ++ held)

theorem balanced_none : Balanced (none : Leases ρ) [] :=
  ⟨nofun, nodup_nil, List.Perm.refl _⟩

namespace Balanced

theorem congr (h : Balanced l held) (hp : held.Perm held') : Balanced l held' :=
  { h with perm := h.perm.trans (hp.append_left _) }

theorem acquire (h : Balanced l held) (r : ρ) : Balanced (l.acquire r) (l.fresh r :: held) where
  numbered := by
    intro x hx
    have hlen : (l.acquire r).acquired.length = l.acquired.length + 1 :=
      length_append
    rcases mem_append.mp hx with hx | hx
    · have := h.numbered x hx
      omega
    · rw [mem_singleton.mp hx, hlen]
      exact Nat.lt_succ_self _
  nodup := by
    refine List.Nodup.append h.nodup (nodup_singleton _) ?_
    intro x hx hf
    have := h.numbered x hx
    rw [mem_singleton.mp hf] at this
    exact absurd this (Nat.lt_irrefl _)
  perm := by
    have hmid : (l.released ++ l.fresh r :: held).Perm (l.fresh r :: (l.released ++ held)) :=
      perm_middle
    exact (perm_append_singleton _ _).trans ((h.perm.cons _).trans hmid.symm)

theorem release (h : Balanced l (x :: held)) : Balanced (l.release x) held where
  numbered := h.numbered
  nodup := h.nodup
  perm := by
    have : l.released ++ x :: held = (l.release x).released ++ held := by
      simp only [Leases.release, append_assoc, cons_append, nil_append]
    exact this ▸ h.perm

theorem releaseAll {xs : List (ρ × Nat)} (h : Balanced l (xs ++ held)) :
    Balanced (l.releaseAll xs) held where
  numbered := h.numbered
  nodup := h.nodup
  perm := by simpa only [Leases.releaseAll, append_assoc] using h.perm

theorem settled (h : Balanced l []) : l.Settled :=
  ⟨h.nodup, by simpa only [append_nil] using h.perm.symm⟩

theorem live_perm [DecidableEq ρ] (h : Balanced l held) : l.live.Perm held := by
  have hnodup : (l.released ++ held).Nodup := h.perm.nodup_iff.mp h.nodup
  have hdisjoint := disjoint_of_nodup_append hnodup
  have hgone : (l.released.filter fun x => x ∉ l.released) = [] :=
    filter_eq_nil_iff.mpr (by simp)
  have hkept : (held.filter fun x => x ∉ l.released) = held :=
    filter_eq_self.mpr fun x hx => decide_eq_true fun hr => hdisjoint hr hx
  refine (h.perm.filter _).trans ?_
  rw [filter_append, hgone, hkept, nil_append]

theorem up [DecidableEq ρ] {resources : List ρ} (h : Balanced l held)
    (hr : (held.map Prod.fst).Perm resources) : l.Up resources :=
  ⟨h.nodup, (h.live_perm.append_left _).trans h.perm.symm, (h.live_perm.map _).trans hr⟩

theorem accounted (h : Balanced l held) (hx : x ∈ l.acquired) : x ∈ l.released ∨ x ∈ held :=
  mem_append.mp (h.perm.mem_iff.mp hx)

end Balanced

end Leases

end ActorWeb
