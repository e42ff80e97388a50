import ActorWeb.ProjectionPipeline

namespace ActorWeb

open List

namespace RemoteView

variable {Value : Type} {v w : RemoteView Value} {x : Told Value} {l m : List (Told Value)}
  {P : RemoteView Value → Told Value → Prop}

def takeAll (v : RemoteView Value) (l : List (Told Value)) : RemoteView Value := l.foldl take v

def Taking (P : RemoteView Value → Told Value → Prop) (v : RemoteView Value) :
    List (Told Value) → Prop
  | [] => True
  | x :: rest => P v x ∧ Taking P (v.take x) rest

theorem takeAll_append (v : RemoteView Value) (l m : List (Told Value)) :
    v.takeAll (l ++ m) = (v.takeAll l).takeAll m := foldl_append

theorem taking_append : Taking P v (l ++ m) ↔ Taking P v l ∧ Taking P (v.takeAll l) m := by
  induction l generalizing v with
  | nil => simp [Taking, takeAll]
  | cons x l ih => simp only [cons_append, Taking, ih, takeAll, foldl_cons, and_assoc]

theorem taking_toList {o : Option (Told Value)} (h : Taking P v l)
    (hx : ∀ x, o = some x → P (v.takeAll l) x) : Taking P v (l ++ o.toList) := by
  refine taking_append.mpr ⟨h, ?_⟩
  cases o with
  | none => trivial
  | some x => exact ⟨hx x rfl, trivial⟩

theorem take_stale (hupdate : x.isUpdate = true) (h : v.isStale x.sequence = true) :
    v.take x = v := by
  cases x with
  | snapshot payload => exact if_pos h
  | event sequence => exact if_pos h
  | answer kind projection => cases hupdate

theorem isStale_takeAll {sequence : Nat}
    (hanswers : ∀ y ∈ l, ∃ kind projection, y = .answer kind projection)
    (hle : ∀ y ∈ l, sequence ≤ y.sequence) (h : v.isStale sequence = true) :
    (v.takeAll l).isStale sequence = true := by
  induction l generalizing v with
  | nil => exact h
  | cons y l ih =>
    refine ih (fun z hz => hanswers z (mem_cons_of_mem y hz))
      (fun z hz => hle z (mem_cons_of_mem y hz)) ?_
    obtain ⟨kind, projection, rfl⟩ := hanswers y mem_cons_self
    have hseq : sequence ≤ projection.sequence := hle _ mem_cons_self
    cases kind <;> simpa [take, fetched, isStale] using hseq

def Gapless (v : RemoteView Value) (x : Told Value) : Prop :=
  x.isCompared = true → v.skips x.sequence = false

instance (v : RemoteView Value) (x : Told Value) : Decidable (Gapless v x) :=
  inferInstanceAs (Decidable (x.isCompared = true → v.skips x.sequence = false))

structure Rising (v : RemoteView Value) (x : Told Value) : Prop where
  sequence : ∀ last, v.lastSequence = some last → last ≤ x.sequence
  version : ∀ shown, x.carries = some shown → v.shown.version ≤ shown.version

structure Grows (v w : RemoteView Value) : Prop where
  sequence : ∀ last, v.lastSequence = some last → ∃ later, w.lastSequence = some later ∧ last ≤ later
  version : v.shown.version ≤ w.shown.version

theorem Grows.refl (v : RemoteView Value) : Grows v v :=
  ⟨fun last h => ⟨last, h, Nat.le_refl _⟩, Nat.le_refl _⟩

theorem Grows.trans {u : RemoteView Value} (h : Grows u v) (h' : Grows v w) : Grows u w := by
  refine ⟨fun last hlast => ?_, Nat.le_trans h.version h'.version⟩
  obtain ⟨later, hlater, hle⟩ := h.sequence last hlast
  obtain ⟨latest, hlatest, hle'⟩ := h'.sequence later hlater
  exact ⟨latest, hlatest, Nat.le_trans hle hle'⟩

theorem take_gap (h : Gapless v x) : (v.take x).gap = v.gap := by
  cases x with
  | snapshot payload =>
    simp only [take, handleRemoteSnapshotProjection]
    split
    case isTrue => rfl
    case isFalse => rw [show v.skips payload.sequence = false from h rfl, Bool.or_false]
  | event sequence =>
    simp only [take, handleRemoteEventProjection]
    split
    case isTrue => rfl
    case isFalse => rw [show v.skips sequence = false from h rfl, Bool.or_false]
  | answer kind projection =>
    cases kind with
    | prime => rfl
    | replay =>
      simp only [take, fetched, handleRemoteSnapshotProjection]
      split
      case isTrue => rfl
      case isFalse => rw [show v.skips projection.sequence = false from h rfl, Bool.or_false]

theorem take_shown (v : RemoteView Value) (x : Told Value) :
    (v.take x).shown = v.shown ∨ x.carries = some (v.take x).shown := by
  cases x with
  | snapshot payload =>
    simp only [take, handleRemoteSnapshotProjection]
    split
    case isTrue => exact .inl rfl
    case isFalse => exact .inr rfl
  | event sequence =>
    simp only [take, handleRemoteEventProjection]
    split <;> exact .inl rfl
  | answer kind projection =>
    cases kind with
    | prime => exact .inr rfl
    | replay =>
      simp only [take, fetched, handleRemoteSnapshotProjection]
      split
      case isTrue => exact .inl rfl
      case isFalse => exact .inr rfl

theorem take_lastSequence (v : RemoteView Value) (x : Told Value) :
    (v.take x).lastSequence = some x.sequence ∨
      v.isStale x.sequence = true ∧ (v.take x).lastSequence = v.lastSequence := by
  cases x with
  | snapshot payload =>
    simp only [take, handleRemoteSnapshotProjection]
    split
    case isTrue hs => exact .inr ⟨hs, rfl⟩
    case isFalse => exact .inl rfl
  | event sequence =>
    simp only [take, handleRemoteEventProjection]
    split
    case isTrue hs => exact .inr ⟨hs, rfl⟩
    case isFalse => exact .inl rfl
  | answer kind projection => cases kind <;> exact .inl rfl

theorem take_grows (h : Rising v x) : Grows v (v.take x) := by
  constructor
  · intro last hlast
    obtain hnew | ⟨-, hold⟩ := take_lastSequence v x
    · exact ⟨_, hnew, h.sequence last hlast⟩
    · exact ⟨last, hold.trans hlast, Nat.le_refl _⟩
  · obtain hsame | hnew := take_shown v x
    · exact Nat.le_of_eq (congrArg Stamped.version hsame.symm)
    · exact h.version _ hnew

theorem takeAll_grows (h : Taking Rising v l) : Grows v (v.takeAll l) := by
  induction l generalizing v with
  | nil => exact .refl v
  | cons x l ih => exact (take_grows h.1).trans (ih h.2)

end RemoteView

namespace WatcherNode

open RemoteView

variable {Value : Type} {n m : WatcherNode Value} {P : RemoteView Value → Told Value → Prop}

def expected (n : WatcherNode Value) : RemoteView Value := n.view.takeAll n.coming

theorem isAnswer_of_waiting {y : Told Value} (h : y ∈ n.waiting) :
    ∃ kind projection, y = .answer kind projection := by
  obtain ⟨a, -, rfl⟩ := mem_map.mp h
  exact ⟨a.1, a.2, rfl⟩

theorem Moves.taking (h : Moves n m) (ht : Taking P n.view n.coming) :
    Taking P m.view m.coming := by
  cases h with
  | quiet hcoming hview => rwa [hcoming, hview]
  | took x hcoming hview =>
    rw [hcoming] at ht
    rw [hview]
    exact ht.2
  | dropped x rest hcoming hrest hview hupdate hstale hwaiting =>
    rw [hcoming] at ht
    obtain ⟨hfirst, -, hlast⟩ := taking_append.mp ht
    have hs := isStale_takeAll (fun y => isAnswer_of_waiting) hwaiting hstale
    rw [take_stale hupdate hs] at hlast
    rw [hview, hrest]
    exact taking_append.mpr ⟨hfirst, hlast⟩
  | lost rest hconnected hview hcoming =>
    rw [hcoming] at ht
    rw [hview]
    exact (taking_append.mp ht).1

theorem Moves.view_gap (h : Moves n m) (ht : Taking Gapless n.view n.coming) :
    m.view.gap = n.view.gap := by
  cases h with
  | quiet hcoming hview => rw [hview]
  | took x hcoming hview =>
    rw [hcoming] at ht
    rw [hview, take_gap ht.1]
  | dropped x rest hcoming hrest hview => rw [hview]
  | lost rest hconnected hview => rw [hview]

theorem Moves.view_grows (h : Moves n m) (ht : Taking Rising n.view n.coming) :
    Grows n.view m.view := by
  cases h with
  | quiet hcoming hview => exact hview ▸ .refl _
  | took x hcoming hview =>
    rw [hcoming] at ht
    exact hview ▸ take_grows ht.1
  | dropped x rest hcoming hrest hview => exact hview ▸ .refl _
  | lost rest hconnected hview => exact hview ▸ .refl _

theorem Moves.expected (h : Moves n m) : m.expected = n.expected ∨
      m.connected = false ∧ m.view = n.view ∧ ∃ rest, n.coming = m.coming ++ rest := by
  cases h with
  | quiet hcoming hview => exact .inl (by rw [WatcherNode.expected, hcoming, hview]; rfl)
  | took x hcoming hview =>
    refine .inl ?_
    rw [WatcherNode.expected, WatcherNode.expected, hview, hcoming]
    rfl
  | dropped x rest hcoming hrest hview hupdate hstale hwaiting =>
    refine .inl ?_
    have hs := isStale_takeAll (fun y => isAnswer_of_waiting) hwaiting hstale
    rw [WatcherNode.expected, WatcherNode.expected, hview, hrest, hcoming, takeAll_append,
      takeAll_append]
    simp only [takeAll, foldl_cons] at hs ⊢
    rw [take_stale hupdate hs]
  | lost rest hconnected hview hcoming => exact .inr ⟨hconnected, hview, rest, hcoming⟩

theorem Moves.expected_grows (h : Moves n m) (ht : Taking Rising n.view n.coming) :
    Grows m.expected n.expected := by
  obtain hsame | ⟨-, hview, rest, hcoming⟩ := h.expected
  · exact hsame ▸ .refl _
  · rw [hcoming, ← hview] at ht
    rw [WatcherNode.expected, WatcherNode.expected, hcoming, takeAll_append, ← hview]
    exact takeAll_grows (taking_append.mp ht).2

end WatcherNode

end ActorWeb
