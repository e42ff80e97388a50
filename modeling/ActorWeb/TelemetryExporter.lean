import Mathlib.Data.List.Basic

/-! The telemetry exporter: one promise chain that hands the observed events to the sink. -/

namespace ActorWeb.TelemetryExporter

open Option List

variable {E : Type}

/-- The chain `pending` as the links that have not begun, the event whose write is going on, and what
each settled link came to; a flush or close waits for the links there are when it is called. -/
structure Exporter (E : Type) where
  droppedEventCount : Nat := 0
  closed : Bool := false
  waiting : List E := []
  writing : Option E := none
  outcomes : List Bool := []
  awaited : List Nat := []
  observed : List E := []
  written : List E := []
  failed : List E := []
  late : List E := []

inductive Action (E : Type)
  | observe (event : E)
  | flush
  | close
  | start
  | resolve
  | fail (threw : Bool)
  | skip (threw : Bool)

def Action.threw : Action E → Bool
  | .fail threw | .skip threw => threw
  | _ => false

def observe (s : Exporter E) (event : E) : Exporter E :=
  if s.closed then
    { s with droppedEventCount := s.droppedEventCount + 1, late := s.late ++ [event] }
  else { s with waiting := s.waiting ++ [event], observed := s.observed ++ [event] }

def links (s : Exporter E) : Nat :=
  s.outcomes.length + s.writing.toList.length + s.waiting.length

def flush (s : Exporter E) : Exporter E := { s with awaited := s.awaited ++ [links s] }

def close (s : Exporter E) : Exporter E := flush { s with closed := true }

/-- What the first `n` links left behind; the chain begins with a resolved promise. -/
def rejects (s : Exporter E) : Nat → Bool
  | 0 => false
  | n + 1 => s.outcomes[n]? = some false

/-- The `catch` of a link, which settles as `onError` does. -/
def caught (s : Exporter E) (threw : Bool) : Exporter E :=
  { s with droppedEventCount := s.droppedEventCount + 1, outcomes := s.outcomes ++ [!threw] }

def step (s : Exporter E) : Action E → Option (Exporter E)
  | .observe event => some (observe s event)
  | .flush => some (flush s)
  | .close => some (close s)
  | .start =>
    match s.writing, s.waiting with
    | none, event :: rest =>
      if rejects s s.outcomes.length then none
      else some { s with waiting := rest, writing := some event, written := s.written ++ [event] }
    | _, _ => none
  | .resolve =>
    s.writing.map fun _ => { s with writing := none, outcomes := s.outcomes ++ [true] }
  | .fail threw =>
    s.writing.map fun event => caught { s with writing := none, failed := s.failed ++ [event] } threw
  | .skip threw =>
    match s.writing, s.waiting with
    | none, _ :: rest =>
      if rejects s s.outcomes.length then some (caught { s with waiting := rest } threw) else none
    | _, _ => none

def run (actions : List (Action E)) : Option (Exporter E) := actions.foldlM step {}

/-- Every observed event was handed to the sink once or still waits, in order; no flush rejects, and
the link whose turn it is can begin. -/
structure Exports (s : Exporter E) : Prop where
  written : s.written ++ s.waiting = s.observed
  once : s.outcomes.length + s.writing.toList.length = s.written.length
  dropped : s.droppedEventCount = s.failed.length + s.late.length
  flushed : ∀ n, rejects s n = false
  turn : s.waiting ≠ [] → s.writing.isSome ∨ (step s .start).isSome

section

variable {s t : Exporter E} {a : Action E}

theorem rejects_eq_false (h : ∀ ok ∈ s.outcomes, ok = true) (n : Nat) : rejects s n = false := by
  cases n with
  | zero => rfl
  | succ n =>
    refine decide_eq_false fun hget => ?_
    cases h _ (mem_of_getElem? hget)

theorem Exports.fulfilled (h : Exports s) : ∀ ok ∈ s.outcomes, ok = true := by
  intro ok hok
  obtain ⟨n, hget⟩ := mem_iff_getElem?.mp hok
  cases ok with
  | true => rfl
  | false => exact absurd hget (of_decide_eq_false (h.flushed (n + 1)))

theorem Exports.of_fulfilled (hwritten : s.written ++ s.waiting = s.observed)
    (honce : s.outcomes.length + s.writing.toList.length = s.written.length)
    (hdropped : s.droppedEventCount = s.failed.length + s.late.length)
    (h : ∀ ok ∈ s.outcomes, ok = true) : Exports s := by
  refine ⟨hwritten, honce, hdropped, rejects_eq_false h, fun hwaiting => ?_⟩
  cases hw : s.writing with
  | some event => exact .inl rfl
  | none =>
    obtain ⟨event, rest, hrest⟩ := exists_cons_of_ne_nil hwaiting
    exact .inr (by simp [step, hw, hrest, rejects_eq_false h])

theorem fulfilled_snoc (h : ∀ ok ∈ s.outcomes, ok = true) : ∀ ok ∈ s.outcomes ++ [true], ok = true := by
  simpa [or_imp, forall_and] using h

theorem Exports.step (h : Exports s) (ha : a.threw = false) (hstep : step s a = some t) :
    Exports t := by
  have hdropped := h.dropped
  have honce := h.once
  cases a with
  | observe event =>
    obtain rfl := some.inj hstep
    unfold observe
    split
    · exact .of_fulfilled h.written h.once (by simp; omega) h.fulfilled
    · exact .of_fulfilled (by simp [← h.written]) h.once hdropped h.fulfilled
  | flush | close =>
    obtain rfl := some.inj hstep
    exact .of_fulfilled h.written h.once hdropped h.fulfilled
  | start =>
    simp only [TelemetryExporter.step] at hstep
    split at hstep
    case h_1 event rest hwriting hwaiting =>
      split at hstep
      · cases hstep
      · obtain rfl := some.inj hstep
        refine .of_fulfilled (by simp [← h.written, hwaiting]) ?_ hdropped h.fulfilled
        simpa [hwriting] using honce
    case h_2 => cases hstep
  | resolve =>
    obtain ⟨event, hwriting, rfl⟩ := map_eq_some_iff.mp hstep
    refine .of_fulfilled h.written ?_ hdropped (fulfilled_snoc h.fulfilled)
    simpa [hwriting] using honce
  | fail threw =>
    obtain rfl : threw = false := ha
    obtain ⟨event, hwriting, rfl⟩ := map_eq_some_iff.mp hstep
    refine .of_fulfilled h.written ?_ (by simp [caught]; omega) (fulfilled_snoc h.fulfilled)
    simpa [caught, hwriting] using honce
  | skip threw =>
    simp only [TelemetryExporter.step, h.flushed] at hstep
    split at hstep <;> cases hstep

theorem Exports.run {actions : List (Action E)} (h : ∀ a ∈ actions, a.threw = false)
    (hs : Exports s) (hrun : actions.foldlM TelemetryExporter.step s = some t) : Exports t := by
  induction actions generalizing s with
  | nil => exact some.inj hrun ▸ hs
  | cons a actions ih =>
    obtain ⟨u, hstep, hrest⟩ := bind_eq_some_iff.mp hrun
    exact ih (fun b hb => h b (mem_cons_of_mem _ hb)) (hs.step (h a mem_cons_self) hstep)
      hrest

theorem not_exports_of_threw (ha : a.threw = true) (hstep : step s a = some t) : ¬ Exports t := by
  intro h
  have hcaught : ∃ u : Exporter E, t = caught u true := by
    cases a with
    | observe | flush | close | start | resolve => cases ha
    | fail threw =>
      obtain rfl : threw = true := ha
      obtain ⟨event, -, rfl⟩ := map_eq_some_iff.mp hstep
      exact ⟨_, rfl⟩
    | skip threw =>
      obtain rfl : threw = true := ha
      simp only [step] at hstep
      split at hstep
      · split at hstep
        · exact ⟨_, (some.inj hstep).symm⟩
        · cases hstep
      · cases hstep
  obtain ⟨u, rfl⟩ := hcaught
  cases h.fulfilled false (by simp [caught])

end

/-- Every state of a run has its events exported, exactly when `onError` never throws in it. -/
theorem exports_iff_onError_returns (actions : List (Action E)) {s : Exporter E}
    (hrun : run actions = some s) :
    (∀ p t, p <+: actions → run p = some t → Exports t) ↔ ∀ a ∈ actions, a.threw = false := by
  constructor
  · intro h a ha
    obtain ⟨p, q, rfl⟩ := append_of_mem ha
    rw [run, foldlM_append] at hrun
    obtain ⟨u, hu, hrest⟩ := Option.bind_eq_some_iff.mp hrun
    obtain ⟨t, hstep, -⟩ := Option.bind_eq_some_iff.mp hrest
    by_contra hthrew
    refine not_exports_of_threw (by simpa using hthrew) hstep (h (p ++ [a]) t ⟨q, by simp⟩ ?_)
    rw [run, foldlM_append]
    exact Option.bind_eq_some_iff.mpr ⟨u, hu, by simp [hstep]⟩
  · intro h p t hp hrun'
    exact .run (fun a ha => h a (hp.subset ha)) (.of_fulfilled rfl rfl rfl (by simp)) hrun'

theorem exports_of_failing_write : (∀ p t, p <+: [Action.observe 1, .start, .fail false] →
    run p = some t → Exports t) ↔ ∀ a ∈ [Action.observe 1, .start, .fail false], a.threw = false :=
  exports_iff_onError_returns _ rfl

def throwingRun : List (Action Nat) := [.observe 1, .observe 2, .start, .fail true, .skip false]

/-- The second event is never written. -/
theorem not_exports_throwing : ¬ ∀ p t, p <+: throwingRun → run p = some t → Exports t := by
  intro h
  have hwritten := (h throwingRun _ (prefix_refl _) rfl).written
  cases hwritten

end ActorWeb.TelemetryExporter
