import ActorWeb.Joined

/-! Words joined by keywords, and when the joined text gives them back. -/

namespace ActorWeb.Keywords

open List ActorWeb.Joined

variable {α : Type} {mark : α} {blank : α → Prop} {k k' k₁ k₂ k₃ l r l' r' : List α}

def Keyword (mark : α) (k : List α) : Prop := ∃ w, k = mark :: w ∧ mark ∉ w

def Distinct (k k' : List α) : Prop := ∀ r r', k ++ r ≠ k' ++ r'

def NoWordTo (blank : α → Prop) (k xs : List α) : Prop := ∀ l r, xs = l ++ (k ++ r) → ¬ Word blank l

def NoWordFrom (blank : α → Prop) (k xs : List α) : Prop := ∀ l r, xs = l ++ (k ++ r) → ¬ Word blank r

theorem Keyword.word (hk : Keyword mark k) (hmark : ¬ blank mark) (l r : List α) :
    Word blank (l ++ (k ++ r)) := by
  obtain ⟨w, rfl, -⟩ := hk
  exact word_of_sep hmark l (w ++ r)

/-- A keyword that begins inside another text does not begin inside the keyword there. -/
theorem cut_cases (hk : Keyword mark k) (hk' : Keyword mark k') (h : k ++ r = l' ++ (k' ++ r')) :
    l' = [] ∨ ∃ t, l' = k ++ t ∧ r = t ++ (k' ++ r') := by
  obtain ⟨as, rfl, htail⟩ | ⟨as, hkas, htail⟩ := append_eq_append_iff.mp h
  · exact .inr ⟨as, rfl, htail⟩
  · obtain ⟨w, rfl, hw⟩ := hk
    obtain ⟨w', rfl, -⟩ := hk'
    cases as with
    | nil => exact .inr ⟨[], by rw [hkas, append_nil, append_nil], htail.symm⟩
    | cons x as =>
      obtain ⟨rfl, -⟩ := List.cons.inj htail
      cases l' with
      | nil => exact .inl rfl
      | cons y l' =>
        cases hkas
        exact absurd (mem_append_right l' mem_cons_self) hw

theorem keyword_cases (hk : Keyword mark k) (hk' : Keyword mark k')
    (h : l ++ (k ++ r) = l' ++ (k' ++ r')) :
    (l = l' ∧ k ++ r = k' ++ r') ∨ (∃ t, l' = l ++ (k ++ t) ∧ r = t ++ (k' ++ r')) ∨
      ∃ t, l = l' ++ (k' ++ t) ∧ r' = t ++ (k ++ r) := by
  obtain ⟨as, rfl, htail⟩ | ⟨as, rfl, htail⟩ := append_eq_append_iff.mp h
  · obtain rfl | ⟨t, rfl, hr⟩ := cut_cases hk hk' htail
    · exact .inl ⟨(append_nil l).symm, htail⟩
    · exact .inr (.inl ⟨t, rfl, hr⟩)
  · obtain rfl | ⟨t, rfl, hr⟩ := cut_cases hk' hk htail
    · exact .inl ⟨append_nil l', htail.symm⟩
    · exact .inr (.inr ⟨t, rfl, hr⟩)

section Four

variable {a b c d a' b' c' d' : List α}

def fourText (k₁ k₂ k₃ a b c d : List α) : List α := a ++ (k₁ ++ (b ++ (k₂ ++ (c ++ (k₃ ++ d)))))

structure Separate (blank : α → Prop) (k₁ k₂ k₃ a b c d : List α) : Prop where
  first : NoWordTo blank k₁ a
  second : NoWordFrom blank k₁ b
  secondNext : NoWordTo blank k₂ b
  third : NoWordFrom blank k₂ c
  thirdNext : NoWordTo blank k₃ c
  fourth : NoWordFrom blank k₃ d

def Unique (blank : α → Prop) (k₁ k₂ k₃ a b c d : List α) : Prop :=
  ∀ a' b' c' d', Word blank a' → Word blank b' → Word blank c' → Word blank d' →
    fourText k₁ k₂ k₃ a' b' c' d' = fourText k₁ k₂ k₃ a b c d → a' = a ∧ b' = b ∧ c' = c ∧ d' = d

/-- The keyword before the last but one word does not move on. -/
theorem not_moved (hmark : ¬ blank mark) (h₂ : Keyword mark k₂) (h₃ : Keyword mark k₃)
    (h₂₃ : Distinct k₃ k₂) (hc : NoWordFrom blank k₂ c) (hd : NoWordFrom blank k₃ d)
    (hc' : Word blank c') (hd' : Word blank d') {v : List α} :
    c ++ (k₃ ++ d) ≠ v ++ (k₂ ++ (c' ++ (k₃ ++ d'))) := by
  intro h
  obtain ⟨-, heq⟩ | ⟨t, -, ht⟩ | ⟨t, hct, ht⟩ := keyword_cases h₃ h₂ h
  · exact h₂₃ _ _ heq
  · refine hd (t ++ (k₂ ++ c')) d' ?_ hd'
    rw [ht, append_assoc, append_assoc]
  · have hblank := hc _ _ hct
    obtain ⟨rfl, -⟩ | ⟨u, rfl, -⟩ | ⟨u, -, hu⟩ := keyword_cases h₃ h₃ ht
    · exact hblank hc'
    · exact hblank (h₃.word hmark c' u)
    · exact hd _ _ hu hd'

theorem two_unique (hmark : ¬ blank mark) (h₂ : Keyword mark k₂) (h₃ : Keyword mark k₃)
    (h₂₃ : Distinct k₃ k₂) (hb : NoWordTo blank k₂ b) (hc : NoWordFrom blank k₂ c)
    (hcn : NoWordTo blank k₃ c) (hd : NoWordFrom blank k₃ d) (hb' : Word blank b')
    (hc' : Word blank c') (hd' : Word blank d')
    (h : b ++ (k₂ ++ (c ++ (k₃ ++ d))) = b' ++ (k₂ ++ (c' ++ (k₃ ++ d')))) :
    b = b' ∧ c = c' ∧ d = d' := by
  obtain ⟨rfl, heq⟩ | ⟨t, -, ht⟩ | ⟨t, hbt, -⟩ := keyword_cases h₂ h₂ h
  · obtain ⟨rfl, hlast⟩ | ⟨t, -, ht⟩ | ⟨t, hct, -⟩ :=
      keyword_cases h₃ h₃ (append_cancel_left heq)
    · exact ⟨rfl, rfl, append_cancel_left hlast⟩
    · exact absurd hd' (hd _ _ ht)
    · exact absurd hc' (hcn _ _ hct)
  · exact absurd ht (not_moved hmark h₂ h₃ h₂₃ hc hd hc' hd')
  · exact absurd hb' (hb _ _ hbt)

theorem Separate.unique (s : Separate blank k₁ k₂ k₃ a b c d) (hmark : ¬ blank mark)
    (h₁ : Keyword mark k₁) (h₂ : Keyword mark k₂) (h₃ : Keyword mark k₃) (h₁₂ : Distinct k₂ k₁)
    (h₂₃ : Distinct k₃ k₂) : Unique blank k₁ k₂ k₃ a b c d := by
  intro a' b' c' d' ha' hb' hc' hd' h
  have hstays : ∀ {v}, c ++ (k₃ ++ d) ≠ v ++ (k₂ ++ (c' ++ (k₃ ++ d'))) :=
    not_moved hmark h₂ h₃ h₂₃ s.third s.fourth hc' hd'
  obtain ⟨rfl, heq⟩ | ⟨t, -, ht⟩ | ⟨t, hat, -⟩ := keyword_cases h₁ h₁ h.symm
  · obtain ⟨rfl, rfl, rfl⟩ := two_unique hmark h₂ h₃ h₂₃ s.secondNext s.third s.thirdNext s.fourth
      hb' hc' hd' (append_cancel_left heq)
    exact ⟨rfl, rfl, rfl, rfl⟩
  · -- the first keyword moves on, into the second word or past it
    obtain ⟨-, heq⟩ | ⟨u, -, hu⟩ | ⟨u, hbu, hu⟩ := keyword_cases h₂ h₁ ht
    · exact absurd heq (h₁₂ _ _)
    · refine absurd ?_ (hstays (v := u ++ (k₁ ++ b')))
      rw [hu, append_assoc, append_assoc]
    · have hblank := s.second _ _ hbu
      obtain ⟨rfl, -⟩ | ⟨w, rfl, -⟩ | ⟨w, -, hw⟩ := keyword_cases h₂ h₂ hu
      · exact absurd hb' hblank
      · exact absurd (h₂.word hmark b' w) hblank
      · exact absurd hw hstays
  · exact absurd ha' (s.first _ _ hat)

theorem unique_iff_separate (hmark : ¬ blank mark) (h₁ : Keyword mark k₁) (h₂ : Keyword mark k₂)
    (h₃ : Keyword mark k₃) (h₁₂ : Distinct k₂ k₁) (h₂₃ : Distinct k₃ k₂) (ha : Word blank a)
    (hb : Word blank b) (hc : Word blank c) (hd : Word blank d) :
    Unique blank k₁ k₂ k₃ a b c d ↔ Separate blank k₁ k₂ k₃ a b c d := by
  have hne {k : List α} (hk : Keyword mark k) (l r : List α) : l ≠ l ++ (k ++ r) := by
    obtain ⟨w, rfl, -⟩ := hk
    exact fun h => by simpa using congrArg List.length h
  refine ⟨fun h => ?_, fun s => s.unique hmark h₁ h₂ h₃ h₁₂ h₂₃⟩
  refine ⟨?_, ?_, ?_, ?_, ?_, ?_⟩
  · rintro l r rfl hl
    obtain ⟨he, -⟩ := h l (r ++ (k₁ ++ b)) c d hl (h₁.word hmark _ _) hc hd (by simp [fourText])
    exact hne h₁ _ _ he
  · rintro l r rfl hr
    obtain ⟨he, -⟩ := h (a ++ (k₁ ++ l)) r c d (h₁.word hmark _ _) hr hc hd (by simp [fourText])
    exact hne h₁ _ _ he.symm
  · rintro l r rfl hl
    obtain ⟨-, he, -⟩ := h a l (r ++ (k₂ ++ c)) d ha hl (h₂.word hmark _ _) hd (by simp [fourText])
    exact hne h₂ _ _ he
  · rintro l r rfl hr
    obtain ⟨-, he, -⟩ := h a (b ++ (k₂ ++ l)) r d ha (h₂.word hmark _ _) hr hd (by simp [fourText])
    exact hne h₂ _ _ he.symm
  · rintro l r rfl hl
    obtain ⟨-, -, he, -⟩ := h a b l (r ++ (k₃ ++ d)) ha hb hl (h₃.word hmark _ _) (by simp [fourText])
    exact hne h₃ _ _ he
  · rintro l r rfl hr
    obtain ⟨-, -, he, -⟩ := h a b (c ++ (k₃ ++ l)) r ha hb (h₃.word hmark _ _) hr (by simp [fourText])
    exact hne h₃ _ _ he.symm

end Four

end ActorWeb.Keywords
