import ActorWeb.ProviderLifecycle
import ActorWeb.Transition

namespace ActorWeb

open Transition Function

/-- An actor and the commands dispatched to it, each waiting in its slot. -/
structure ProviderLoop (Slot : Type) where
  actor : NodeProviderActor
  waiting : Slot → Option Suspension

namespace ProviderLoop

variable {Slot : Type}

def start : ProviderLoop Slot := { actor := .create, waiting := fun _ => none }

/-- Commands may be dispatched at any time, and the ports may answer or reject in any order. -/
inductive Action (Slot : Type)
  | dispatch (slot : Slot) (command : NodeProviderActorCommand) (clock : NodeProviderActorClock)
  | resume (slot : Slot) (answer : Answer) (clock : NodeProviderActorClock)
  | reject (slot : Slot)

section Step

variable [DecidableEq Slot]

def settle (s : ProviderLoop Slot) (slot : Slot) (r : NodeProviderActor × Option Suspension) :
    ProviderLoop Slot :=
  { actor := r.1, waiting := update s.waiting slot r.2 }

def step (options : NodeProviderActorOptions) (s : ProviderLoop Slot) :
    Action Slot → Option (ProviderLoop Slot)
  | .dispatch slot command clock =>
    if s.waiting slot = none then
      some (s.settle slot (s.actor.dispatch options clock command))
    else none
  | .resume slot answer clock =>
    (s.waiting slot).bind fun k =>
      (s.actor.resume options clock k answer).map (s.settle slot)
  | .reject slot =>
    if s.waiting slot = none then none
    else some { s with waiting := update s.waiting slot none }

variable {options : NodeProviderActorOptions}

theorem step_resume {s t : ProviderLoop Slot} {slot : Slot} {answer : Answer}
    {clock : NodeProviderActorClock} : step options s (.resume slot answer clock) = some t ↔
      ∃ k r, s.waiting slot = some k ∧ s.actor.resume options clock k answer = some r ∧
        t = s.settle slot r := by
  simp only [step, Option.bind_eq_some_iff, Option.map_eq_some_iff]
  constructor
  · rintro ⟨k, hk, r, hr, rfl⟩
    exact ⟨k, r, hk, hr, rfl⟩
  · rintro ⟨k, r, hk, hr, rfl⟩
    exact ⟨k, hk, r, hr, rfl⟩

end Step

def Coherent (s : ProviderLoop Slot) : Prop := s.actor.projection.lifecycle.Coherent

/-- A command that goes on finds the projection in a state that what it was told still fits. -/
def Fitting (s : ProviderLoop Slot) : Action Slot → Prop
  | .resume slot answer _ => ∀ k, s.waiting slot = some k →
      s.actor.projection.lifecycle.Fits (NodeProviderActor.answerChange k answer)
  | .dispatch _ _ _ | .reject _ => True

theorem start_coherent : Coherent (start : ProviderLoop Slot) := createInitialProjection_coherent

section Run

variable [DecidableEq Slot] {options : NodeProviderActorOptions}

theorem step_coherent_iff {s t : ProviderLoop Slot} {a : Action Slot} (hs : s.Coherent)
    (h : step options s a = some t) : t.Coherent ↔ s.Fitting a := by
  cases a with
  | dispatch slot command clock =>
    simp only [step] at h
    split at h
    case isTrue =>
      cases h
      refine iff_of_true ?_ trivial
      rw [Coherent, settle, NodeProviderActor.dispatch_lifecycle, hs.apply_iff]
      exact NodeProviderActor.dispatchChange_fits command
    case isFalse => cases h
  | resume slot answer clock =>
    obtain ⟨k, r, hk, hr, rfl⟩ := step_resume.mp h
    rw [Coherent, settle, NodeProviderActor.resume_lifecycle hr, hs.apply_iff]
    simp only [Fitting, hk, Option.some.injEq, forall_eq']
  | reject slot =>
    simp only [step] at h
    split at h
    case isTrue => cases h
    case isFalse =>
      cases h
      exact iff_of_true hs trivial

/-- The projection is coherent in all states of a run exactly if every command that goes on
finds it in a state that what it was told fits. -/
theorem coherent_iff_fitting (options : NodeProviderActorOptions) (as : List (Action Slot)) :
    Along (step options) (fun _ _ t => t.Coherent) start as ↔
      Guarded (step options) Fitting start as :=
  along_iff_guarded (I := fun _ => True) (fun _ _ _ _ _ => trivial)
    (fun _ _ _ _ hs h => step_coherent_iff hs h) trivial start_coherent as

end Run

section Example

def exampleOptions : NodeProviderActorOptions :=
  { provider := "mlx_lm.server"
    endpoint := "http://127.0.0.1:4242"
    readinessTarget := "http://127.0.0.1:4242/v1/models"
    startupTimeoutMs := 60000
    idleShutdownMs := 30000
    filesystemProbeTarget := "/models"
    modelCacheKey := "cache" }

def exampleClock : NodeProviderActorClock :=
  { nowIso := "2026-07-02T15:00:00.000Z", nowMs := 1783004400000 }

def exampleKey : JsText.NonEmptyString := ⟨"activation", by decide +kernel⟩

def exampleHandle : ChildProcessHandle := ⟨"child", by decide +kernel⟩

/-- One command after the other: a provider is acquired, becomes ready and is released, and
the next readiness check waits. -/
def waitingRun : List (Action Unit) :=
  let answer (result : NodeProviderActorEffectResult) : Action Unit :=
    .resume () (.effect (.recorded result false)) exampleClock
  [.dispatch () (.acquireProvider exampleKey exampleKey) exampleClock,
    answer .probed, answer .inspected, answer .claimed, answer (.spawned exampleHandle "15:00"),
    .dispatch () .checkProviderReadiness exampleClock, answer (.ready "15:01"),
    .dispatch () (.releaseProvider none) exampleClock,
    .dispatch () .checkProviderReadiness exampleClock, answer (.waiting "15:02")]

/-- It leaves a starting provider with an open idle window. -/
theorem waitingRun_not_coherent :
    ¬ Along (step exampleOptions) (fun _ _ t => t.Coherent) start waitingRun := by
  intro h
  have hstatus : (exec (step exampleOptions) start waitingRun).map
      (fun t => (t.actor.projection.status, t.actor.projection.idleSince)) =
        some (.starting, some exampleClock.nowIso) := by decide +kernel
  obtain ⟨t, ht, hfields⟩ := Option.map_eq_some_iff.mp hstatus
  have hcoherent : t.Coherent :=
    along_invariant (I := Coherent) (fun _ _ _ _ _ hP => hP) start_coherent h ht
  obtain ⟨hstarting, hidle⟩ := Prod.mk.inj hfields
  have hrunning := hcoherent.running (by
    rw [NodeProviderActorProjection.lifecycle, hidle]
    simp)
  rw [NodeProviderActorProjection.lifecycle, hstarting] at hrunning
  cases hrunning

end Example

end ProviderLoop

end ActorWeb
