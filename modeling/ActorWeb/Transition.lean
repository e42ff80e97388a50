import Mathlib.Logic.Basic

namespace ActorWeb.Transition

open Option

variable {σ α : Type}

/-- The state that a list of actions leads to, `none` when one of them is not
enabled where it is taken. -/
def exec (step : σ → α → Option σ) (s : σ) : List α → Option σ
  | [] => some s
  | a :: as => (step s a).bind fun t => exec step t as

/-- Every step taken along the actions satisfies `P`. -/
def Along (step : σ → α → Option σ) (P : σ → α → σ → Prop) (s : σ) : List α → Prop
  | [] => True
  | a :: as => ∀ t, step s a = some t → P s a t ∧ Along step P t as

def Guarded (step : σ → α → Option σ) (G : σ → α → Prop) : σ → List α → Prop :=
  Along step fun s a _ => G s a

variable {step : σ → α → Option σ}

instance decidableAlong {P : σ → α → σ → Prop} [∀ s a t, Decidable (P s a t)] (s : σ) :
    (as : List α) → Decidable (Along step P s as)
  | [] => .isTrue trivial
  | a :: as =>
    match h : step s a with
    | none => .isTrue fun t ht => absurd (h.symm.trans ht) (by simp)
    | some u =>
      have := decidableAlong (P := P) u as
      decidable_of_iff (P s a u ∧ Along step P u as) (by simp [Along, h])

instance decidableGuarded {G : σ → α → Prop} [∀ s a, Decidable (G s a)] (s : σ) (as : List α) :
    Decidable (Guarded step G s as) :=
  decidableAlong s as

variable {s t : σ} {as : List α} {G : σ → α → Prop} {I Q : σ → Prop} {P : σ → α → σ → Prop}

theorem exec_cons {a : α} :
    exec step s (a :: as) = some t ↔ ∃ u, step s a = some u ∧ exec step u as = some t := by
  simp only [exec, bind_eq_some_iff]

theorem guarded_cons {a : α} (h : step s a = some t) :
    Guarded step G s (a :: as) ↔ G s a ∧ Guarded step G t as := by
  simp only [Guarded, Along, h, some.injEq, forall_eq']

theorem exec_append (s : σ) (as bs : List α) :
    exec step s (as ++ bs) = (exec step s as).bind fun t => exec step t bs := by
  induction as generalizing s with
  | nil => rfl
  | cons a as ih =>
    cases hs : step s a with
    | none => simp only [List.cons_append, exec, hs, bind_none]
    | some u => simp only [List.cons_append, exec, hs, bind_some, ih]

/-- An invariant preserved by every enabled step holds after every run. -/
theorem exec_invariant (preserved : ∀ s a t, I s → step s a = some t → I t) (hs : I s)
    (h : exec step s as = some t) : I t := by
  induction as generalizing s with
  | nil => exact some.inj h ▸ hs
  | cons a as ih =>
    obtain ⟨u, ha, hu⟩ := exec_cons.mp h
    exact ih (preserved s a u hs ha) hu

/-- An invariant preserved by the steps that satisfy `P` holds after every run
whose steps all satisfy `P`. -/
theorem along_invariant (preserved : ∀ s a t, I s → step s a = some t → P s a t → I t)
    (hs : I s) (hP : Along step P s as) (h : exec step s as = some t) : I t := by
  induction as generalizing s with
  | nil => exact some.inj h ▸ hs
  | cons a as ih =>
    obtain ⟨u, ha, hu⟩ := exec_cons.mp h
    obtain ⟨hp, hrest⟩ := hP u ha
    exact ih (preserved s a u hs ha hp) hrest hu

theorem guarded_invariant (preserved : ∀ s a t, I s → step s a = some t → G s a → I t)
    (hs : I s) (hG : Guarded step G s as) (h : exec step s as = some t) : I t :=
  along_invariant preserved hs hG h

theorem guarded_and_mem {Q : α → Prop}
    (hQ : ∀ a ∈ as, Q a) (hG : Guarded step G s as) : Guarded step (fun s a => G s a ∧ Q a) s as := by
  induction as generalizing s with
  | nil => exact trivial
  | cons a as ih =>
    intro t ha
    obtain ⟨hg, hrest⟩ := hG t ha
    exact ⟨⟨hg, hQ a List.mem_cons_self⟩, ih (fun b hb => hQ b (List.mem_cons_of_mem a hb)) hrest⟩

/-- What every step out of a state of an invariant satisfies holds along every run. -/
theorem along_of_invariant (preserved : ∀ s a t, I s → step s a = some t → I t)
    (holds : ∀ s a t, I s → step s a = some t → P s a t) (hs : I s) (as : List α) :
    Along step P s as := by
  induction as generalizing s with
  | nil => exact trivial
  | cons a as ih => exact fun t ha => ⟨holds s a t hs ha, ih (preserved s a t hs ha)⟩

theorem along_of_guarded (preserved : ∀ s a t, I s → G s a → step s a = some t → I t ∧ P s a t)
    (hs : I s) (hG : Guarded step G s as) : Along step P s as := by
  induction as generalizing s with
  | nil => exact trivial
  | cons a as ih =>
    intro t ha
    obtain ⟨hg, hrest⟩ := hG t ha
    obtain ⟨ht, hp⟩ := preserved s a t hs hg ha
    exact ⟨hp, ih ht hrest⟩

/-- Two step properties that agree on the steps out of states of an invariant
hold along the same runs. -/
theorem along_congr {Q : σ → α → σ → Prop} (preserved : ∀ s a t, I s → step s a = some t → I t)
    (hPQ : ∀ s a t, I s → step s a = some t → (P s a t ↔ Q s a t)) (hs : I s)
    (as : List α) : Along step P s as ↔ Along step Q s as := by
  induction as generalizing s with
  | nil => exact Iff.rfl
  | cons a as ih =>
    refine forall_congr' fun t => imp_congr_right fun ha => ?_
    exact and_congr (hPQ s a t hs ha) (ih (preserved s a t hs ha))

theorem along_and {Q : σ → α → σ → Prop} :
    Along step (fun s a t => P s a t ∧ Q s a t) s as ↔ Along step P s as ∧ Along step Q s as := by
  induction as generalizing s with
  | nil => exact (and_iff_left trivial).symm
  | cons a as ih =>
    simp only [Along, ih, ← forall_and]
    exact forall_congr' fun t => forall_congr' fun _ => and_and_and_comm

theorem along_append {bs : List α} (h : exec step s as = some t) :
    Along step P s (as ++ bs) ↔ Along step P s as ∧ Along step P t bs := by
  induction as generalizing s with
  | nil => simp only [List.nil_append, Along, true_and, some.inj h]
  | cons a as ih =>
    obtain ⟨u, ha, hu⟩ := exec_cons.mp h
    simp only [List.cons_append, Along, ha, some.injEq, forall_eq', ih hu, and_assoc]

/-- Along a run, a property of single steps is a property of every cut of the
run into a prefix, one step and the rest. -/
theorem along_iff_cut :
    Along step P s as ↔ ∀ pre a post t u, as = pre ++ a :: post → exec step s pre = some t →
      step t a = some u → P t a u := by
  induction as generalizing s with
  | nil => simp [Along]
  | cons b bs ih =>
    constructor
    · intro h pre a post t u hcut hpre ha
      cases pre with
      | nil =>
        cases hcut
        obtain rfl : s = t := some.inj hpre
        exact (h u ha).1
      | cons c pre =>
        obtain ⟨rfl, hrest⟩ := List.cons.inj hcut
        obtain ⟨v, hb, hv⟩ := exec_cons.mp hpre
        exact ih.mp (h v hb).2 pre a post t u hrest hv ha
    · intro h t hb
      refine ⟨h [] b bs s t rfl rfl hb, ih.mpr ?_⟩
      intro pre a post v w hcut hpre ha
      exact h (b :: pre) a post v w (by rw [hcut]; rfl) (exec_cons.mpr ⟨t, hb, hpre⟩) ha

/-- When every step out of a state with the property keeps it exactly if its
guard holds, all states of a run have it exactly if every step meets its guard. -/
theorem along_iff_guarded (preserved : ∀ s a t, I s → step s a = some t → I t)
    (exact_step : ∀ s a t, I s → Q s → step s a = some t → (Q t ↔ G s a)) (hI : I s)
    (hQ : Q s) (as : List α) : Along step (fun _ _ t => Q t) s as ↔ Guarded step G s as := by
  induction as generalizing s with
  | nil => exact Iff.rfl
  | cons a as ih =>
    refine forall_congr' fun t => imp_congr_right fun ha => ?_
    have hiff := exact_step s a t hI hQ ha
    constructor
    · exact fun h => ⟨hiff.mp h.1, (ih (preserved s a t hI ha) h.1).mp h.2⟩
    · intro h
      have hQt := hiff.mpr h.1
      exact ⟨hQt, (ih (preserved s a t hI ha) hQt).mpr h.2⟩

/-- The same when the invariant is kept by the steps that meet their guard only. -/
theorem along_iff_guarded_of
    (exact_step : ∀ s a t, I s → Q s → step s a = some t → (Q t ↔ G s a) ∧ (G s a → I t))
    (hI : I s) (hQ : Q s) (as : List α) :
    Along step (fun _ _ t => Q t) s as ↔ Guarded step G s as := by
  induction as generalizing s with
  | nil => exact Iff.rfl
  | cons a as ih =>
    refine forall_congr' fun t => imp_congr_right fun ha => ?_
    obtain ⟨hiff, hkeep⟩ := exact_step s a t hI hQ ha
    constructor
    · exact fun h => ⟨hiff.mp h.1, (ih (hkeep (hiff.mp h.1)) h.1).mp h.2⟩
    · exact fun h => ⟨hiff.mpr h.1, (ih (hkeep h.1) (hiff.mpr h.1)).mpr h.2⟩

/-- When every step keeps a property exactly if its guard holds, a run ends with
the property exactly if it starts with it and every step meets its guard. -/
theorem exec_iff_guarded (preserved : ∀ s a t, I s → step s a = some t → I t)
    (exact_step : ∀ s a t, I s → step s a = some t → (Q t ↔ Q s ∧ G s a))
    (hs : I s) (h : exec step s as = some t) : Q t ↔ Q s ∧ Guarded step G s as := by
  induction as generalizing s with
  | nil => simp only [some.inj h, Guarded, Along, and_true]
  | cons a as ih =>
    obtain ⟨u, ha, hu⟩ := exec_cons.mp h
    rw [ih (preserved s a u hs ha) hu, exact_step s a u hs ha, and_assoc]
    rw [guarded_cons ha]

end ActorWeb.Transition
