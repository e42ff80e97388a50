import ActorWeb.NodeProviderActor

namespace ActorWeb

/-- The part of a projection that says where the provider is in its life. -/
structure ProviderLifecycle where
  status : NodeProviderActorStatus
  handle : Option ChildProcessHandle
  ready : Bool
  (idleSince idleDeadline : Option String)

namespace ProviderLifecycle

inductive Change
  | keep
  | fail
  | begin
  | adopt (handle : ChildProcessHandle)
  | duplicate (handle : ChildProcessHandle)
  | start (handle : ChildProcessHandle)
  | ready
  | wait
  | stop
  | ended (status : NodeProviderActorStatus)
  | release (idleSince idleDeadline : String)
deriving DecidableEq

def apply (v : ProviderLifecycle) : Change → ProviderLifecycle
  | .keep => v
  | .fail => { v with status := .failed, ready := false, idleSince := none, idleDeadline := none }
  | .begin => { v with idleSince := none, idleDeadline := none }
  | .adopt handle =>
    { v with status := .running, handle := some handle, ready := true, idleSince := none }
  | .duplicate handle =>
    { v with
      status := if v.handle.isSome then v.status else .starting
      handle := some handle }
  | .start handle =>
    { status := .starting
      handle := some handle
      ready := false
      idleSince := none
      idleDeadline := none }
  | .ready => { v with status := .running, ready := true, idleSince := none, idleDeadline := none }
  | .wait => { v with status := .starting, ready := false }
  | .stop => { v with status := .stopping, ready := false, idleSince := none, idleDeadline := none }
  | .ended status => { status, handle := none, ready := false, idleSince := none, idleDeadline := none }
  | .release idleSince idleDeadline =>
    { v with idleSince := some idleSince, idleDeadline := some idleDeadline }

structure Coherent (v : ProviderLifecycle) : Prop where
  ready : v.ready = true → v.status = .running ∧ v.handle ≠ none
  handle : v.status = .starting ∨ v.status = .running ∨ v.status = .stopping → v.handle ≠ none
  idle : v.idleSince ≠ none ↔ v.idleDeadline ≠ none
  running : v.idleSince ≠ none → v.status = .running

def Fits (v : ProviderLifecycle) : Change → Prop
  | .adopt _ => v.idleDeadline = none
  | .ready | .stop => v.handle ≠ none
  | .wait => v.handle ≠ none ∧ v.idleSince = none
  | .ended status => status = .idle ∨ status = .failed
  | .release _ _ => v.status = .running
  | .keep | .fail | .begin | .duplicate _ | .start _ => True

theorem Coherent.apply_iff {v : ProviderLifecycle} (h : Coherent v) (c : Change) :
    Coherent (v.apply c) ↔ v.Fits c := by
  cases c with
  | keep => exact iff_of_true h trivial
  | fail | start handle =>
    exact iff_of_true ⟨by simp [apply], by simp [apply], by simp [apply], by simp [apply]⟩ trivial
  | begin =>
    exact iff_of_true ⟨h.ready, h.handle, by simp [apply], by simp [apply]⟩ trivial
  | adopt handle =>
    constructor
    · exact fun ht => by simpa [apply, Fits] using ht.idle
    · intro hnone
      exact ⟨by simp [apply], by simp [apply], by simpa [apply, Fits] using hnone, by simp [apply]⟩
  | duplicate handle =>
    refine iff_of_true ⟨?_, by simp [apply], h.idle, ?_⟩ trivial
    · intro hready
      obtain ⟨hrunning, hhandle⟩ := h.ready hready
      simp [apply, Option.isSome_iff_ne_none, hhandle, hrunning]
    · intro hidle
      have hrunning := h.running hidle
      have hhandle := h.handle (.inr (.inl hrunning))
      simp [apply, Option.isSome_iff_ne_none, hhandle, hrunning]
  | ready =>
    constructor
    · exact fun ht => (ht.ready rfl).2
    · exact fun hhandle => ⟨fun _ => ⟨rfl, hhandle⟩, fun _ => hhandle, by simp [apply], by simp [apply]⟩
  | wait =>
    constructor
    · intro ht
      refine ⟨ht.handle (.inl rfl), ?_⟩
      by_contra hidle
      have hrunning := ht.running hidle
      simp [apply] at hrunning
    · rintro ⟨hhandle, hidle⟩
      exact ⟨by simp [apply], fun _ => hhandle, h.idle, fun hsome => absurd hidle hsome⟩
  | stop =>
    constructor
    · exact fun ht => ht.handle (.inr (.inr rfl))
    · exact fun hhandle => ⟨by simp [apply], fun _ => hhandle, by simp [apply], by simp [apply]⟩
  | ended status =>
    constructor
    · intro ht
      cases status with
      | idle => exact .inl rfl
      | failed => exact .inr rfl
      | starting | running | stopping => exact absurd rfl (ht.handle (by simp [apply]))
    · rintro (rfl | rfl) <;> exact ⟨by simp [apply], by simp [apply], by simp [apply], by simp [apply]⟩
  | release idleSince idleDeadline =>
    constructor
    · exact fun ht => ht.running (by simp [apply])
    · exact fun hrunning => ⟨h.ready, h.handle, by simp [apply], fun _ => hrunning⟩

end ProviderLifecycle

def NodeProviderActorProjection.lifecycle (projection : NodeProviderActorProjection) :
    ProviderLifecycle :=
  { status := projection.status
    handle := projection.handle
    ready := projection.ready
    idleSince := projection.idleSince
    idleDeadline := projection.idleDeadline }

theorem createInitialProjection_coherent : createInitialProjection.lifecycle.Coherent :=
  ⟨by simp [createInitialProjection, NodeProviderActorProjection.lifecycle],
    by simp [createInitialProjection, NodeProviderActorProjection.lifecycle],
    by simp [createInitialProjection, NodeProviderActorProjection.lifecycle],
    by simp [createInitialProjection, NodeProviderActorProjection.lifecycle]⟩

namespace NodeProviderActor

open ProviderLifecycle

def dispatchChange (options : NodeProviderActorOptions) (clock : NodeProviderActorClock)
    (p : NodeProviderActor) : NodeProviderActorCommand → Change
  | .acquireProvider _ _ => .begin
  | .checkProviderReadiness =>
    if p.projection.handle = none ∨ p.projection.status = .idle ∨ p.projection.status = .failed then
      .keep
    else if p.projection.ready = false ∧ p.startupStartedAtMs.any fun startedAt =>
        options.startupTimeoutMs ≤ clock.nowMs - startedAt then .fail
    else .keep
  | .releaseProvider acquisitionKey =>
    if p.projection.status = .running ∧ p.projection.ready = true ∧
        (acquisitionKey = none ∨ acquisitionKey = p.projection.acquisitionKey) then
      match JsText.toISOString (clock.nowMs + options.idleShutdownMs) with
      | none => .keep
      | some idleDeadline => .release clock.nowIso idleDeadline
    else .keep
  | .cancelProvider _ _ | .tickIdleShutdown | .observeProviderExit => .keep

def effectChange (result : NodeProviderActorEffectResult) : EffectAwait → Change
  | .acquireFilesystem _ _ | .acquireModelCache _ _ | .readinessFailedSignal =>
    match result with
    | .failed _ _ _ _ => .fail
    | _ => .keep
  | .acquireDuplicate _ _ =>
    match result with
    | .alreadyRunning handle _ => .adopt handle
    | .duplicate handle _ => .duplicate handle
    | .error _ => .fail
    | _ => .keep
  | .acquireSpawn =>
    match result with
    | .failed _ _ _ _ => .fail
    | .spawned handle _ | .reused handle _ => .start handle
    | _ => .keep
  | .readiness =>
    match result with
    | .ready _ => .ready
    | .waiting _ => .wait
    | .failed _ _ _ _ | .error _ => .fail
    | _ => .keep
  | .readinessFailedCancellation _ | .cancellation _ => .keep
  | .cancellationSignal | .idleShutdownSignal _ =>
    match result with
    | .failed _ _ _ _ => .fail
    | _ => .stop

def exitStatus : ExitOutcome → NodeProviderActorStatus
  | .crashed => .failed
  | .exited | .cancelled => .idle

def answerChange : Suspension → Answer → Change
  | .effect _ await, .effect (.recorded result _) => effectChange result await
  | .effect _ _, .effect (.error _) => .fail
  | .observeExit _, .exit (.error _) => .fail
  | .captured _ _ _ (some _), .captured => .fail
  | .captured _ outcome _ none, .captured => .ended (exitStatus outcome)
  | _, _ => .keep

variable {options : NodeProviderActorOptions} {clock : NodeProviderActorClock}
  {p : NodeProviderActor}

theorem failReadinessAndSignal_lifecycle (failure : NodeProviderLifecycleFailure)
    (observedAt : Option String) :
    (p.failReadinessAndSignal clock failure observedAt).1.projection.lifecycle =
      p.projection.lifecycle.apply .fail := by
  simp only [failReadinessAndSignal]
  split <;> rfl

theorem dispatch_lifecycle (command : NodeProviderActorCommand) :
    (p.dispatch options clock command).1.projection.lifecycle =
      p.projection.lifecycle.apply (p.dispatchChange options clock command) := by
  cases command with
  | acquireProvider activationKey acquisitionKey => rfl
  | cancelProvider requestedBy reason =>
    simp only [dispatch, cancelProvider]
    split <;> rfl
  | checkProviderReadiness =>
    simp only [dispatch, checkReadiness, dispatchChange]
    split
    case isTrue => rfl
    case isFalse =>
      split
      case isTrue => exact failReadinessAndSignal_lifecycle _ _
      case isFalse => rfl
  | releaseProvider acquisitionKey =>
    simp only [dispatch, releaseProvider, dispatchChange]
    split
    case isTrue => cases JsText.toISOString (clock.nowMs + options.idleShutdownMs) <;> rfl
    case isFalse => rfl
  | tickIdleShutdown =>
    simp only [dispatch, tickIdleShutdown]
    split
    case h_1 => rfl
    case h_2 => split <;> rfl
  | observeProviderExit =>
    simp only [dispatch, observeExit]
    split <;> rfl

theorem afterEffect_lifecycle (result : NodeProviderActorEffectResult) (await : EffectAwait) :
    (p.afterEffect options clock result await).1.projection.lifecycle =
      p.projection.lifecycle.apply (effectChange result await) := by
  cases await with
  | acquireFilesystem | acquireModelCache | readinessFailedSignal | acquireDuplicate | acquireSpawn
  | cancellationSignal | idleShutdownSignal => cases result <;> rfl
  | readinessFailedCancellation | cancellation => rfl
  | readiness =>
    cases result with
    | failed failure fact exit cancellation => exact failReadinessAndSignal_lifecycle _ _
    | error failure => exact failReadinessAndSignal_lifecycle _ _
    | _ => rfl

theorem resume_lifecycle {k : Suspension} {answer : Answer}
    {r : NodeProviderActor × Option Suspension} (h : p.resume options clock k answer = some r) :
    r.1.projection.lifecycle = p.projection.lifecycle.apply (answerChange k answer) := by
  simp only [resume] at h
  split at h
  case h_1 =>
    cases h
    exact afterEffect_lifecycle _ _
  case h_2 =>
    cases h
    rfl
  case h_3 handle result =>
    cases h
    cases result <;> rfl
  case h_4 handle outcome observedAt result =>
    cases h
    cases result <;> rfl
  case h_5 handle outcome observedAt tailFailure =>
    cases h
    cases tailFailure with
    | some failure => rfl
    | none => cases outcome <;> rfl
  case h_6 => cases h

theorem dispatchChange_fits (command : NodeProviderActorCommand) :
    p.projection.lifecycle.Fits (p.dispatchChange options clock command) := by
  cases command with
  | acquireProvider | cancelProvider | tickIdleShutdown | observeProviderExit => exact trivial
  | checkProviderReadiness =>
    simp only [dispatchChange]
    split
    case isTrue => exact trivial
    case isFalse => split <;> exact trivial
  | releaseProvider acquisitionKey =>
    simp only [dispatchChange]
    split
    case isTrue hrunning =>
      cases JsText.toISOString (clock.nowMs + options.idleShutdownMs) with
      | none => exact trivial
      | some idleDeadline => exact hrunning.1
    case isFalse => exact trivial

end NodeProviderActor

end ActorWeb
