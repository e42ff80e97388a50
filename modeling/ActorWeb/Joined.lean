import Mathlib.Data.List.Basic

/-! Words joined by a separator, and when the joined text gives them back. -/

namespace ActorWeb.Joined

open List

variable {α : Type} {sep : α} {blank : α → Prop} {l r l' r' a b a' b' k : List α}

def Word (blank : α → Prop) (xs : List α) : Prop := ∃ x ∈ xs, ¬blank x

def NoWordBefore (sep : α) (blank : α → Prop) (xs : List α) : Prop :=
  ∀ l r, xs = l ++ sep :: r → ¬Word blank l

def NoWordAfter (sep : α) (blank : α → Prop) (xs : List α) : Prop :=
  ∀ l r, xs = l ++ sep :: r → ¬Word blank r

/-- A keyword stands between the separators of a text, with `rest` after it. -/
def Holds (sep : α) (k xs rest : List α) : Prop :=
  ∃ l, (l = [] ∨ ∃ l', l = l' ++ [sep]) ∧ xs = l ++ k ++ sep :: rest

theorem word_of_sep (hsep : ¬blank sep) (l r : List α) : Word blank (l ++ sep :: r) :=
  ⟨sep, mem_append_right l mem_cons_self, hsep⟩

theorem join_cases (h : l ++ sep :: r = l' ++ sep :: r') :
    (l = l' ∧ r = r') ∨ (∃ t, l' = l ++ sep :: t ∧ r = t ++ sep :: r') ∨
      ∃ t, l = l' ++ sep :: t ∧ r' = t ++ sep :: r := by
  obtain ⟨as, rfl, htail⟩ | ⟨as, rfl, htail⟩ := append_eq_append_iff.mp h
  · cases as with
    | nil => exact .inl ⟨(append_nil l).symm, (List.cons.inj htail).2⟩
    | cons x t =>
      cases htail
      exact .inr (.inl ⟨t, rfl, rfl⟩)
  · cases as with
    | nil => exact .inl ⟨append_nil l', (List.cons.inj htail).2.symm⟩
    | cons x t =>
      cases htail
      exact .inr (.inr ⟨t, rfl, rfl⟩)

/-- The part before a keyword is given back unless the keyword comes again. -/
theorem before_keyword (hsep : ¬blank sep) (hk : sep ∉ k) (hword : Word blank k)
    (hb : NoWordAfter sep blank b)
    (h : b ++ sep :: (k ++ sep :: r) = b' ++ sep :: (k ++ sep :: r')) :
    (b = b' ∧ r = r') ∨ Holds sep k r r' := by
  have hinside : ∀ {t u : List α}, k ≠ t ++ sep :: u := by
    rintro t u rfl
    exact hk (mem_append_right t mem_cons_self)
  obtain ⟨rfl, hrest⟩ | ⟨t, -, hrest⟩ | ⟨t, hbt, hrest⟩ := join_cases h
  · exact .inl ⟨rfl, (List.cons.inj (append_cancel_left hrest)).2⟩
  · right
    obtain ⟨rfl, rfl⟩ | ⟨u, -, rfl⟩ | ⟨u, hku, -⟩ := join_cases hrest
    · exact ⟨[], .inl rfl, rfl⟩
    · exact ⟨u ++ [sep], .inr ⟨u, rfl⟩, by simp⟩
    · exact absurd hku hinside
  · obtain ⟨rfl, -⟩ | ⟨u, rfl, -⟩ | ⟨u, hku, -⟩ := join_cases hrest
    · exact absurd hword (hb _ _ hbt)
    · exact absurd (word_of_sep hsep k u) (hb _ _ hbt)
    · exact absurd hku hinside

/-- Two words before a keyword are given back unless the keyword comes again. -/
theorem pair_before_keyword (hsep : ¬blank sep) (hk : sep ∉ k) (hword : Word blank k)
    (ha : NoWordBefore sep blank a) (hb : NoWordAfter sep blank b) (ha' : Word blank a')
    (hb' : Word blank b') (h : a ++ sep :: (b ++ sep :: (k ++ sep :: r)) =
      a' ++ sep :: (b' ++ sep :: (k ++ sep :: r'))) :
    (a = a' ∧ b = b' ∧ r = r') ∨ Holds sep k r r' := by
  obtain ⟨rfl, hrest⟩ | ⟨t, rfl, hrest⟩ | ⟨t, hat, -⟩ := join_cases h
  · obtain ⟨rfl, rfl⟩ | hagain := before_keyword hsep hk hword hb hrest
    · exact .inl ⟨rfl, rfl, rfl⟩
    · exact .inr hagain
  · have hmoved : b ++ sep :: (k ++ sep :: r) = (t ++ sep :: b') ++ sep :: (k ++ sep :: r') := by
      rw [hrest, append_assoc, cons_append]
    obtain ⟨hbt, -⟩ | hagain := before_keyword hsep hk hword hb hmoved
    · exact absurd hb' (hb _ _ hbt)
    · exact .inr hagain
  · exact absurd ha' (ha _ _ hat)

theorem triple_unique {c c' : List α} (hsep : ¬blank sep) (ha : NoWordBefore sep blank a)
    (hb : NoWordBefore sep blank b) (hb₁ : NoWordAfter sep blank b)
    (hc : NoWordAfter sep blank c) (ha' : Word blank a') (hb' : Word blank b') (hc' : Word blank c')
    (h : a ++ sep :: (b ++ sep :: c) = a' ++ sep :: (b' ++ sep :: c')) :
    a = a' ∧ b = b' ∧ c = c' := by
  obtain ⟨rfl, hrest⟩ | ⟨t, rfl, hrest⟩ | ⟨t, hat, -⟩ := join_cases h
  · obtain ⟨rfl, rfl⟩ | ⟨u, -, hcu⟩ | ⟨u, hbu, -⟩ := join_cases hrest
    · exact ⟨rfl, rfl, rfl⟩
    · exact absurd hc' (hc _ _ hcu)
    · exact absurd hb' (hb _ _ hbu)
  · obtain ⟨rfl, hcu⟩ | ⟨u, -, hcu⟩ | ⟨u, hbu, hu⟩ := join_cases hrest
    · exact absurd hc' (hc _ _ hcu)
    · exact absurd (word_of_sep hsep b' c') (hc _ _ hcu)
    · have hblank := hb₁ _ _ hbu
      obtain ⟨rfl, -⟩ | ⟨w, -, hcw⟩ | ⟨w, hw, -⟩ := join_cases hu.symm
      · exact absurd hb' hblank
      · exact absurd hc' (hc _ _ hcw)
      · exact absurd (hw ▸ word_of_sep hsep b' w) hblank
  · exact absurd ha' (ha _ _ hat)

end ActorWeb.Joined
