import Mathlib.Data.List.Induction
import Mathlib.Data.List.Sort

namespace ActorWeb.Trace

variable {ε : Type}

def Disciplined (allowed : List ε → ε → Prop) (log : List ε) : Prop :=
  ∀ pre e post, log = pre ++ e :: post → allowed pre e

variable {allowed : List ε → ε → Prop}

theorem disciplined_nil : Disciplined allowed [] := by
  intro pre e post h
  simp at h

theorem Disciplined.imp {allowed' : List ε → ε → Prop} {log : List ε} (h : Disciplined allowed log)
    (himp : ∀ pre e, allowed pre e → allowed' pre e) : Disciplined allowed' log :=
  fun pre e post hlog => himp pre e (h pre e post hlog)

theorem disciplined_cons {log : List ε} {e : ε} :
    Disciplined allowed (e :: log) ↔ allowed [] e ∧ Disciplined (fun pre => allowed (e :: pre)) log := by
  constructor
  · intro h
    exact ⟨h [] e log rfl, fun pre e' post hlog => h (e :: pre) e' post (by rw [hlog]; rfl)⟩
  · rintro ⟨he, hlog⟩ pre e' post h
    cases pre with
    | nil =>
      cases h
      exact he
    | cons e'' pre =>
      obtain ⟨rfl, hrest⟩ := List.cons.inj h
      exact hlog pre e' post hrest

theorem disciplined_concat {log : List ε} {e : ε} :
    Disciplined allowed (log ++ [e]) ↔ Disciplined allowed log ∧ allowed log e := by
  constructor
  · intro h
    refine ⟨fun pre e' post hlog => h pre e' (post ++ [e]) (by simp [hlog]), h log e [] rfl⟩
  · rintro ⟨hlog, he⟩ pre e' post h
    obtain rfl | ⟨post', last, rfl⟩ := post.eq_nil_or_concat
    · obtain ⟨rfl, hlast⟩ := List.append_inj' h rfl
      exact List.singleton_inj.mp hlast ▸ he
    · refine hlog pre e' post' ?_
      have hsplit : log ++ [e] = (pre ++ e' :: post') ++ [last] := by simpa using h
      exact (List.append_inj' hsplit rfl).1

/-- Events allowed after whatever the log has held so far keep a log disciplined. -/
theorem disciplined_append {log new : List ε}
    (h : ∀ more, ∀ e ∈ new, (∀ e' ∈ more, e' ∈ new) → allowed (log ++ more) e) :
    Disciplined allowed (log ++ new) ↔ Disciplined allowed log := by
  induction new using List.reverseRecOn with
  | nil => rw [List.append_nil]
  | append_singleton new e ih =>
    rw [← List.append_assoc, disciplined_concat, ih ?_, and_iff_left_iff_imp]
    · exact fun _ => h new e (by simp) fun e' he' => by simp [he']
    · exact fun more e' he' hmore =>
        h more e' (by simp [he']) fun e'' he'' => by simp [hmore e'' he'']

/-- Of two lists whose keys increase, the one with fewer elements is a sublist. -/
theorem sublist_of_increasing {l₁ l₂ : List (Nat × ε)} (h₁ : l₁.Pairwise (·.1 < ·.1))
    (h₂ : l₂.Pairwise (·.1 < ·.1)) (h : l₁ ⊆ l₂) : l₁.Sublist l₂ := by
  have : Std.Antisymm fun x y : Nat × ε => x.1 < y.1 := ⟨fun _ _ h h' => absurd h (Nat.lt_asymm h')⟩
  have hnodup : l₁.Nodup := h₁.imp fun {x y} hlt => fun he => Nat.lt_irrefl _ (he ▸ hlt)
  exact List.sublist_of_subperm_of_pairwise (List.subperm_of_subset hnodup h) h₁ h₂

end ActorWeb.Trace
