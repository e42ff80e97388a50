import Mathlib.Logic.Function.Basic

namespace ActorWeb.ActorLife

open Function

/-- How far a stop of a path has come, or that a spawn of it is under way. -/
inductive Phase
  | starting
  | stopping
  | publishing
  | forgotten
  | spawning
deriving DecidableEq

/-- One path: whether an actor is registered, the stops and `onStop` calls since its
last spawn, and the stops and spawns that are under way. -/
structure Life where
  registered : Bool
  (stops onStops : Nat)
  phase : Nat → Option Phase

namespace Life

def put (l : Life) (i : Nat) (ph : Option Phase) : Life := { l with phase := update l.phase i ph }

def Idle (l : Life) : Prop := ∀ i, l.phase i = none

def Unstopping (l : Life) : Prop := ∀ i ph, l.phase i = some ph → ph = .spawning

/-- A path whose stops begin one at a time, on a registered and spawned actor. -/
inductive Step : Life → Life → Prop
  | beginStop {l} (i) (hr : l.registered = true) (hi : l.Idle) : Step l (l.put i (some .starting))
  | runOnStop {l} (i) (h : l.phase i = some .starting) :
      Step l ({ l with onStops := l.onStops + 1 }.put i (some .stopping))
  | teardown {l} (i) (h : l.phase i = some .starting ∨ l.phase i = some .stopping) :
      Step l (l.put i (some .publishing))
  | forget {l} (i) (h : l.phase i = some .publishing) :
      Step l ({ l with registered := false }.put i (some .forgotten))
  | stopped {l} (i) (n : Nat) (hn : n ≤ 1) (h : l.phase i = some .forgotten) :
      Step l ({ l with stops := l.stops + n }.put i none)
  | beginSpawn {l} (i) (h : l.Unstopping) :
      Step l ({ l with registered := true }.put i (some .spawning))
  | spawned {l} (i) (h : l.phase i = some .spawning) :
      Step l ({ l with stops := 0, onStops := 0 }.put i none)
  | unseen {l} (i) (h : l.phase i = some .spawning) (hs : l.stops = 0) (ho : l.onStops = 0) :
      Step l (l.put i none)

/-- A stop has the path to itself, and an actor at rest was not stopped since its spawn. -/
structure Sound (l : Life) : Prop where
  stops_le : l.stops ≤ 1
  onStops_le : l.onStops ≤ 1
  alone : ∀ i ph, l.phase i = some ph → ph ≠ .spawning → ∀ j, j ≠ i → l.phase j = none
  starting : ∀ i, l.phase i = some .starting → l.onStops = 0
  stopping : ∀ i ph, l.phase i = some ph → ph ≠ .spawning → l.stops = 0
  forgotten : ∀ i, l.phase i = some .forgotten → l.registered = false
  calm : l.registered = true → l.Idle → l.stops = 0 ∧ l.onStops = 0

variable {l l' : Life}

@[simp] theorem put_registered (l : Life) (i ph) : (l.put i ph).registered = l.registered := rfl

@[simp] theorem put_stops (l : Life) (i ph) : (l.put i ph).stops = l.stops := rfl

@[simp] theorem put_onStops (l : Life) (i ph) : (l.put i ph).onStops = l.onStops := rfl

theorem put_phase (l : Life) (i j ph) : (l.put i ph).phase j = if j = i then ph else l.phase j := by
  simp only [put, update_apply]

theorem put_of_phase {i : Nat} {ph : Option Phase} (h : l.phase i = ph) : l.put i ph = l := by
  rw [put, ← h, update_eq_self]

theorem put_not_idle (l : Life) (i : Nat) (ph : Phase) : ¬(l.put i (some ph)).Idle := by
  intro h
  have hi := h i
  rw [put_phase, if_pos rfl] at hi
  cases hi

theorem put_unstopping {i : Nat} {ph : Option Phase} (h : l.Unstopping)
    (hph : ∀ ph', ph = some ph' → ph' = .spawning) : (l.put i ph).Unstopping := by
  intro j ph' hj
  rw [put_phase] at hj
  split at hj
  case isTrue => exact hph ph' hj
  case isFalse => exact h j ph' hj

theorem sound_of_unstopping (hu : l.Unstopping) (hs : l.stops ≤ 1) (ho : l.onStops ≤ 1)
    (hcalm : l.registered = true → l.Idle → l.stops = 0 ∧ l.onStops = 0) : l.Sound where
  stops_le := hs
  onStops_le := ho
  alone := fun i ph hi hph => absurd (hu i ph hi) hph
  starting := fun i hi => by cases hu i _ hi
  stopping := fun i ph hi hph => absurd (hu i ph hi) hph
  forgotten := fun i hi => by cases hu i _ hi
  calm := hcalm

theorem sound_put {i : Nat} {ph : Phase} (halone : ∀ j, j ≠ i → l.phase j = none)
    (hs : l.stops = 0) (ho : l.onStops ≤ 1) (hstarting : ph = .starting → l.onStops = 0)
    (hforgotten : ph = .forgotten → l.registered = false) : (l.put i (some ph)).Sound := by
  have hput : ∀ j ph', (l.put i (some ph)).phase j = some ph' → j = i ∧ ph = ph' := by
    intro j ph' hj
    rw [put_phase] at hj
    split at hj
    case isTrue hji => exact ⟨hji, Option.some.inj hj⟩
    case isFalse hji =>
      rw [halone j hji] at hj
      cases hj
  constructor
  case stops_le => exact Nat.le_trans (Nat.le_of_eq hs) (Nat.zero_le 1)
  case onStops_le => exact ho
  case alone =>
    intro j ph' hj _ k hk
    obtain ⟨rfl, -⟩ := hput j ph' hj
    rw [put_phase, if_neg hk, halone k hk]
  case starting => exact fun j hj => hstarting (hput j _ hj).2
  case stopping => exact fun _ _ _ _ => hs
  case forgotten => exact fun j hj => hforgotten (hput j _ hj).2
  case calm => exact fun _ hidle => absurd hidle (put_not_idle l i ph)

theorem Sound.unstopping (h : l.Sound) {i : Nat} (hi : l.phase i = some .spawning) :
    l.Unstopping := by
  intro j ph hj
  by_contra hph
  have hne : i ≠ j := by
    rintro rfl
    exact hph (Option.some.inj (hj.symm.trans hi))
  rw [h.alone j ph hj hph i hne] at hi
  cases hi

theorem Sound.step (h : l.Sound) (hstep : Step l l') : l'.Sound := by
  cases hstep with
  | beginStop i hr hi =>
    obtain ⟨hs, ho⟩ := h.calm hr hi
    exact sound_put (fun j _ => hi j) hs h.onStops_le (fun _ => ho) nofun
  | runOnStop i hi =>
    exact sound_put (h.alone i _ hi nofun) (h.stopping i _ hi nofun)
      (Nat.succ_le_succ (Nat.le_of_eq (h.starting i hi))) nofun nofun
  | teardown i hi =>
    obtain hi | hi := hi
    · exact sound_put (h.alone i _ hi nofun) (h.stopping i _ hi nofun) h.onStops_le nofun nofun
    · exact sound_put (h.alone i _ hi nofun) (h.stopping i _ hi nofun) h.onStops_le nofun nofun
  | forget i hi =>
    exact sound_put (h.alone i _ hi nofun) (h.stopping i _ hi nofun) h.onStops_le nofun fun _ => rfl
  | stopped i n hn hi =>
    have hothers := h.alone i _ hi nofun
    have hs : l.stops = 0 := h.stopping i _ hi nofun
    have hr : l.registered = false := h.forgotten i hi
    refine sound_of_unstopping ?_ (by simpa [hs] using hn) h.onStops_le fun hr' => ?_
    · intro j ph hj
      rw [put_phase] at hj
      split at hj
      case isTrue => cases hj
      case isFalse hji =>
        rw [show _ = none from hothers j hji] at hj
        cases hj
    · rw [put_registered, hr] at hr'
      cases hr'
  | beginSpawn i hu =>
    exact sound_of_unstopping (put_unstopping hu fun _ he => (Option.some.inj he).symm) h.stops_le
      h.onStops_le fun _ hidle => absurd hidle (put_not_idle _ i _)
  | spawned i hi =>
    exact sound_of_unstopping (put_unstopping (h.unstopping hi) nofun) (Nat.zero_le 1)
      (Nat.zero_le 1) fun _ _ => ⟨rfl, rfl⟩
  | unseen i hi hs ho =>
    exact sound_of_unstopping (put_unstopping (h.unstopping hi) nofun) h.stops_le h.onStops_le
      fun _ _ => ⟨hs, ho⟩

def Stopping (l : Life) : Prop := ∃ i ph, l.phase i = some ph ∧ ph ≠ .spawning

theorem put_stopping (l : Life) (i : Nat) {ph : Phase} (h : ph ≠ .spawning) :
    (l.put i (some ph)).Stopping := ⟨i, ph, by rw [put_phase, if_pos rfl], h⟩

theorem Sound.stopping_step (h : l.Sound) (hl : l.Stopping) (hstep : Step l l') :
    l'.Stopping ∨ l'.registered = false := by
  obtain ⟨j, ph, hj, hph⟩ := hl
  have hspawning : ∀ i, l.phase i ≠ some .spawning := fun i hi => hph (h.unstopping hi j ph hj)
  cases hstep with
  | beginStop i hr hi => exact .inl (put_stopping l i nofun)
  | runOnStop i hi => exact .inl (put_stopping _ i nofun)
  | teardown i hi => exact .inl (put_stopping l i nofun)
  | forget i hi => exact .inl (put_stopping _ i nofun)
  | stopped i n hn hi => exact .inr (h.forgotten i hi)
  | beginSpawn i hu => exact absurd (hu j ph hj) hph
  | spawned i hi => exact absurd hi (hspawning i)
  | unseen i hi => exact absurd hi (hspawning i)

end Life

end ActorWeb.ActorLife
