import ActorWeb.ProviderSystem

namespace ActorWeb

open Option

open Transition Function NodeProviderActor ProviderLifecycle

def ProviderLifecycle.Change.handle : Change → Option ChildProcessHandle
  | .adopt handle | .duplicate handle | .start handle => some handle
  | .keep | .fail | .begin | .ready | .wait | .stop | .ended _ | .release _ _ => none

def ProviderLifecycle.Change.answered : Change → Bool
  | .adopt _ | .duplicate _ | .start _ | .ready | .wait | .ended _ => true
  | .keep | .fail | .begin | .stop | .release _ _ => false

def TaskPhase.await : TaskPhase → Option EffectAwait
  | .claimed _ _ await | .performing _ _ await | .returning _ _ await => some await
  | .port (.effect _ await) => some await
  | .port _ => none

def EffectAwait.acquiring : EffectAwait → Bool
  | .acquireFilesystem _ _ | .acquireModelCache _ _ | .acquireDuplicate _ _ | .acquireSpawn => true
  | .readiness | .readinessFailedCancellation _ | .readinessFailedSignal | .cancellation _
  | .cancellationSignal | .idleShutdownSignal _ => false

/-- One actor whose commands are dispatched one after the other. `halted` holds from a
cancellation or an idle shutdown that stopped the provider to the next acquisition;
`exited` are the handles whose exit was observed. -/
structure ProviderSequence where
  system : ProviderSystem Unit Unit
  halted : Bool
  exited : List ChildProcessHandle

namespace ProviderSequence

abbrev Action := ProviderSystem.Action Unit Unit

def start : ProviderSequence := { system := .start, halted := false, exited := [] }

def actor (w : ProviderSequence) : NodeProviderActor := w.system.actors ()

def lifecycle (w : ProviderSequence) : ProviderLifecycle := w.actor.projection.lifecycle

def phase (w : ProviderSequence) : Option TaskPhase := (w.system.tasks ()).map ProviderTask.phase

def change (options : NodeProviderActorOptions) (w : ProviderSequence) : Action → Change
  | .dispatch _ _ command clock => w.actor.dispatchChange options clock command
  | .resume _ _ =>
    match w.phase with
    | some (.returning result call await) => answerChange (.effect call await) (.effect result)
    | _ => .keep
  | .answer _ answer _ =>
    match w.phase with
    | some (.port suspension) => answerChange suspension answer
    | _ => .keep
  | .perform _ | .performed _ _ _ | .reject _ => .keep

def acquires : Action → Bool
  | .dispatch _ _ (.acquireProvider _ _) _ => true
  | _ => false

def observed (w : ProviderSequence) : Action → Option ChildProcessHandle
  | .answer _ .captured _ =>
    match w.phase with
    | some (.port (.captured handle _ _ _)) => some handle
    | _ => none
  | _ => none

def step (options : NodeProviderActorOptions) (w : ProviderSequence) (a : Action) :
    Option ProviderSequence :=
  (ProviderSystem.step (fun _ => options) w.system a).map fun t =>
    { system := t
      halted := if acquires a then false else w.halted || decide (w.change options a = .stop)
      exited := (w.observed a).toList ++ w.exited }

/-- What a step may do: a stopped provider stays down until it is acquired again, and a
process that is over is neither taken up nor reported ready. -/
structure Lawful (w w' : ProviderSequence) : Prop where
  down : w'.halted = true → w'.lifecycle.status ≠ .starting ∧ w'.lifecycle.status ≠ .running
  handle : ∀ h ∈ w.exited, w'.lifecycle.handle = some h → w.lifecycle.handle = some h
  ready : ∀ h ∈ w.exited, w'.lifecycle.handle = some h → w'.lifecycle.ready = false

/-- A readiness answer does not come to a stopping provider, and an acquisition is not
answered, by a port or by the journal, with a process that is over. -/
def Sound (options : NodeProviderActorOptions) (w : ProviderSequence) (a : Action) : Prop :=
  (w.change options a = .ready ∨ w.change options a = .wait → w.lifecycle.status ≠ .stopping) ∧
    ∀ h ∈ (w.change options a).handle, h ∉ w.exited

instance (options : NodeProviderActorOptions) (w : ProviderSequence) (a : Action) :
    Decidable (Sound options w a) :=
  inferInstanceAs (Decidable (_ ∧ _))

structure Quiet (v : ProviderLifecycle) (halted : Bool) (exited : List ChildProcessHandle) : Prop where
  halted : halted = true → v.status ≠ .starting ∧ v.status ≠ .running
  ready : v.ready = true → v.status = .running ∧ v.handle ≠ none
  exited : ∀ h ∈ exited, v.handle = some h → v.status ≠ .starting ∧ v.status ≠ .running

section Quiet

variable {v : ProviderLifecycle} {halted : Bool} {exited : List ChildProcessHandle}

theorem Quiet.reset (h : Quiet v halted exited) : Quiet v false exited :=
  ⟨by simp, h.ready, h.exited⟩

theorem Quiet.bury (h : Quiet v halted exited) (hstarting : v.status ≠ .starting)
    (hrunning : v.status ≠ .running) (buried : Option ChildProcessHandle) :
    Quiet v halted (buried.toList ++ exited) :=
  ⟨h.halted, h.ready, fun _ _ _ => ⟨hstarting, hrunning⟩⟩

theorem checked_alive (hstop : v.status ≠ .stopping) (hidle : v.status ≠ .idle)
    (hfailed : v.status ≠ .failed) : ¬(v.status ≠ .starting ∧ v.status ≠ .running) := by
  cases hstatus : v.status <;> simp_all

theorem Quiet.apply (h : Quiet v halted exited) {c : Change}
    (hcheck : c = .ready ∨ c = .wait → v.handle ≠ none ∧
      ¬(v.status ≠ .starting ∧ v.status ≠ .running))
    (hhandle : ∀ x ∈ c.handle, x ∉ exited ∧ halted = false)
    (hover : ∀ status, c = .ended status → status = .idle ∨ status = .failed) :
    Quiet (v.apply c) (halted || decide (c = .stop)) exited := by
  cases c with
  | keep | begin | release =>
    refine ⟨fun hh => h.halted (by simpa using hh), h.ready, h.exited⟩
  | fail | stop => exact ⟨by simp [ProviderLifecycle.apply], by simp [ProviderLifecycle.apply],
      by simp [ProviderLifecycle.apply]⟩
  | adopt x | start x =>
    obtain ⟨hfresh, hdown⟩ := hhandle x rfl
    refine ⟨by simp [hdown], by simp [ProviderLifecycle.apply], fun y hy heq => ?_⟩
    exact absurd (some.inj heq ▸ hy) hfresh
  | duplicate x =>
    obtain ⟨hfresh, hdown⟩ := hhandle x rfl
    refine ⟨by simp [hdown], fun hready => ?_, fun y hy heq => ?_⟩
    · obtain ⟨hrunning, hsome⟩ := h.ready hready
      simp [ProviderLifecycle.apply, isSome_iff_ne_none, hsome, hrunning]
    · exact absurd (some.inj heq ▸ hy) hfresh
  | ready =>
    obtain ⟨hsome, halive⟩ := hcheck (.inl rfl)
    refine ⟨fun hh => absurd (h.halted (by simpa using hh)) halive, fun _ => ⟨rfl, hsome⟩, ?_⟩
    exact fun y hy heq => absurd (h.exited y hy heq) halive
  | wait =>
    obtain ⟨hsome, halive⟩ := hcheck (.inr rfl)
    refine ⟨fun hh => absurd (h.halted (by simpa using hh)) halive,
      by simp [ProviderLifecycle.apply], ?_⟩
    exact fun y hy heq => absurd (h.exited y hy heq) halive
  | ended status =>
    refine ⟨fun _ => ?_, by simp [ProviderLifecycle.apply], by simp [ProviderLifecycle.apply]⟩
    obtain rfl | rfl := hover status rfl <;> simp [ProviderLifecycle.apply]

theorem apply_handle {c : Change} {x : ChildProcessHandle} (h : (v.apply c).handle = some x) :
    v.handle = some x ∨ x ∈ c.handle := by
  cases c with
  | adopt y | duplicate y | start y => exact .inr h
  | ended status => cases h
  | keep | fail | begin | ready | wait | stop | release => exact .inl h

end Quiet

section Awaits

variable {options : NodeProviderActorOptions} {clock : NodeProviderActorClock}
  {p : NodeProviderActor}

variable {call : EffectCall}

theorem failReadinessAndSignal_await {failure : NodeProviderLifecycleFailure}
    {observedAt : Option String} {await : EffectAwait}
    (h : (p.failReadinessAndSignal clock failure observedAt).2 = some (.effect call await)) :
    ∃ handle, await = .readinessFailedCancellation handle := by
  simp only [failReadinessAndSignal] at h
  split at h
  case h_1 => cases h
  case h_2 handle _ =>
    cases h
    exact ⟨handle, rfl⟩

theorem dispatch_await {command : NodeProviderActorCommand} {await : EffectAwait}
    (h : (p.dispatch options clock command).2 = some (.effect call await)) :
    (await = .readiness → p.projection.handle ≠ none ∧ p.projection.status ≠ .idle ∧
      p.projection.status ≠ .failed ∧ p.dispatchChange options clock command = .keep) ∧
    (await.acquiring = true → ∃ activation acquisition,
      command = .acquireProvider activation acquisition) := by
  cases command with
  | acquireProvider activation acquisition =>
    obtain ⟨-, rfl⟩ := Suspension.effect.inj (some.inj h)
    exact ⟨by simp, fun _ => ⟨activation, acquisition, rfl⟩⟩
  | cancelProvider requestedBy reason =>
    simp only [dispatch, cancelProvider] at h
    split at h
    case isTrue =>
      obtain ⟨-, rfl⟩ := Suspension.effect.inj (some.inj h)
      exact ⟨by simp, by simp [EffectAwait.acquiring]⟩
    case isFalse => cases h
  | checkProviderReadiness =>
    simp only [dispatch, checkReadiness, dispatchChange] at h ⊢
    split at h
    case isTrue => cases h
    case isFalse hlive =>
      split at h
      case isTrue =>
        obtain ⟨handle, rfl⟩ := failReadinessAndSignal_await h
        exact ⟨by simp, by simp [EffectAwait.acquiring]⟩
      case isFalse hintime =>
        obtain ⟨-, rfl⟩ := Suspension.effect.inj (some.inj h)
        obtain ⟨hhandle, hstatus⟩ := not_or.mp hlive
        obtain ⟨hidle, hfailed⟩ := not_or.mp hstatus
        refine ⟨fun _ => ⟨hhandle, hidle, hfailed, ?_⟩, by simp [EffectAwait.acquiring]⟩
        rw [if_neg hlive, if_neg hintime]
  | releaseProvider acquisitionKey =>
    simp only [dispatch, releaseProvider] at h
    split at h
    case isTrue =>
      cases hdate : JsText.toISOString (clock.nowMs + options.idleShutdownMs) <;>
        simp [hdate] at h
    case isFalse => cases h
  | tickIdleShutdown =>
    simp only [dispatch, tickIdleShutdown] at h
    split at h
    case h_1 => cases h
    case h_2 =>
      split at h
      case isTrue => cases h
      case isFalse =>
        obtain ⟨-, rfl⟩ := Suspension.effect.inj (some.inj h)
        exact ⟨by simp, by simp [EffectAwait.acquiring]⟩
  | observeProviderExit =>
    simp only [dispatch, observeExit] at h
    split at h <;> cases h

theorem afterEffect_await {result : NodeProviderActorEffectResult} {await next : EffectAwait}
    (h : (p.afterEffect options clock result await).2 = some (.effect call next)) :
    next ≠ .readiness ∧ (next.acquiring = true → await.acquiring = true) := by
  cases await with
  | acquireFilesystem | acquireModelCache | acquireDuplicate =>
    cases result <;> cases h <;> exact ⟨by simp, fun _ => rfl⟩
  | acquireSpawn | readinessFailedSignal | cancellationSignal | idleShutdownSignal =>
    cases result <;> cases h
  | readinessFailedCancellation | cancellation =>
    cases h
    exact ⟨by simp, by simp [EffectAwait.acquiring]⟩
  | readiness =>
    cases result with
    | failed failure fact exit cancellation | error failure =>
      obtain ⟨handle, rfl⟩ := failReadinessAndSignal_await h
      exact ⟨by simp, by simp [EffectAwait.acquiring]⟩
    | _ => cases h

theorem resume_await {k : Suspension} {answer : Answer} {r : NodeProviderActor × Option Suspension}
    {next : EffectAwait} (h : p.resume options clock k answer = some r)
    (hnext : r.2 = some (.effect call next)) :
    next ≠ .readiness ∧ (next.acquiring = true → ∃ c await, k = .effect c await ∧
      await.acquiring = true) := by
  simp only [resume] at h
  split at h
  case h_1 c await result replayed =>
    cases h
    obtain ⟨hne, hacquiring⟩ := afterEffect_await hnext
    exact ⟨hne, fun hh => ⟨c, await, rfl, hacquiring hh⟩⟩
  case h_2 =>
    cases h
    cases hnext
  case h_3 handle result =>
    cases h
    cases result <;> cases hnext
  case h_4 handle outcome observedAt result =>
    cases h
    cases result <;> cases hnext
  case h_5 handle outcome observedAt tailFailure =>
    cases h
    cases tailFailure <;> cases hnext
  case h_6 => cases h

theorem claimEffect_await (journal : ProviderJournal) (call : EffectCall) (await : EffectAwait) :
    (ProviderSystem.claimEffect options journal call await).2.1.await = some await := by
  simp only [ProviderSystem.claimEffect]
  split
  case h_1 => rfl
  case h_2 => split <;> rfl

theorem recordEffect_await (journal : ProviderJournal) (key : String) (call : EffectCall)
    (await : EffectAwait) (outcome : Performed) :
    (ProviderSystem.recordEffect journal key call await outcome clock).2.1.await = some await := by
  simp only [ProviderSystem.recordEffect]
  split <;> rfl

end Awaits

/-- The life and the past of the provider, and what the effect in flight relies on. -/
structure Steady (w : ProviderSequence) : Prop where
  quiet : Quiet w.lifecycle w.halted w.exited
  checking : ∀ phase ∈ w.phase, phase.await = some .readiness →
    w.lifecycle.handle ≠ none ∧ w.lifecycle.status ≠ .idle ∧ w.lifecycle.status ≠ .failed
  acquiring : ∀ phase ∈ w.phase, ∀ await, phase.await = some await → await.acquiring = true →
    w.halted = false

theorem start_steady : Steady start where
  quiet := ⟨by simp [start], by simp [start, lifecycle, actor, ProviderSystem.start,
    NodeProviderActor.create, createInitialProjection, NodeProviderActorProjection.lifecycle],
    by simp [start]⟩
  checking := by simp [start, phase, ProviderSystem.start]
  acquiring := by simp [start, phase, ProviderSystem.start]

section Step

variable {options : NodeProviderActorOptions} {s t : ProviderSystem Unit Unit}

theorem settle_actor (slot actor : Unit) (r : NodeProviderActor × Option Suspension) :
    (s.settle (fun _ => options) slot actor r).actors () = r.1 := by
  obtain ⟨p, _ | suspension⟩ := r
  · simp [ProviderSystem.settle]
  · cases suspension <;> simp [ProviderSystem.settle, ProviderSystem.journaled]

variable {await : EffectAwait}

theorem settle_await {slot actor : Unit} {r : NodeProviderActor × Option Suspension}
    {task : ProviderTask Unit} (h : (s.settle (fun _ => options) slot actor r).tasks () = some task)
    (hawait : task.phase.await = some await) : ∃ call, r.2 = some (.effect call await) := by
  obtain ⟨p, _ | suspension⟩ := r
  · simp [ProviderSystem.settle] at h
  · cases suspension with
    | effect call next =>
      simp only [ProviderSystem.settle, ProviderSystem.journaled, update_self,
        Option.some.injEq] at h
      rw [← h, claimEffect_await] at hawait
      exact ⟨call, by rw [some.inj hawait]⟩
    | observeExit | tailOutput | captured =>
      simp only [ProviderSystem.settle, update_self, Option.some.injEq] at h
      rw [← h] at hawait
      cases hawait

variable {w w' : ProviderSequence} {a : Action}

theorem step_eq (h : step options w a = some w') :
    ProviderSystem.step (fun _ => options) w.system a = some w'.system ∧
      w'.halted = (if acquires a then false else
        w.halted || decide (w.change options a = .stop)) ∧
      w'.exited = (w.observed a).toList ++ w.exited := by
  obtain ⟨t, ht, rfl⟩ := map_eq_some_iff.mp h
  exact ⟨ht, rfl, rfl⟩

theorem step_lifecycle (h : step options w a = some w') :
    w'.lifecycle = w.lifecycle.apply (w.change options a) := by
  have hs := (step_eq h).1
  cases a with
  | dispatch slot actor command clock =>
    simp only [ProviderSystem.step] at hs
    split at hs
    case h_1 =>
      rw [lifecycle, ProviderSequence.actor, ← some.inj hs, settle_actor]
      exact dispatch_lifecycle command
    case h_2 => cases hs
  | perform slot | reject slot =>
    simp only [ProviderSystem.step] at hs
    split at hs
    case h_1 =>
      rw [lifecycle, ProviderSequence.actor, ← some.inj hs]
      rfl
    case h_2 => cases hs
  | performed slot outcome clock =>
    simp only [ProviderSystem.step] at hs
    split at hs
    case h_1 =>
      split at hs
      case isTrue =>
        rw [lifecycle, ProviderSequence.actor, ← some.inj hs]
        rfl
      case isFalse => cases hs
    case h_2 => cases hs
  | resume slot clock =>
    simp only [ProviderSystem.step] at hs
    split at hs
    case h_1 actor result call await htask =>
      obtain ⟨r, hr, heq⟩ := map_eq_some_iff.mp hs
      rw [lifecycle, ProviderSequence.actor, ← heq, settle_actor, resume_lifecycle hr]
      simp only [change, phase, show w.system.tasks () = _ from htask, map_some]
      rfl
    case h_2 => cases hs
  | answer slot answer clock =>
    simp only [ProviderSystem.step] at hs
    split at hs
    case h_1 actor suspension htask =>
      obtain ⟨r, hr, heq⟩ := map_eq_some_iff.mp hs
      rw [lifecycle, ProviderSequence.actor, ← heq, settle_actor, resume_lifecycle hr]
      simp only [change, phase, show w.system.tasks () = _ from htask, map_some]
      rfl
    case h_2 => cases hs

theorem change_answered (h : (w.change options a).answered = true) :
    ∃ phase ∈ w.phase, ∃ k answer, w.change options a = answerChange k answer ∧
      ∀ call await, k = .effect call await → phase.await = some await := by
  cases a with
  | dispatch slot actor command clock =>
    exfalso
    simp only [change] at h
    cases command with
    | checkProviderReadiness =>
      simp only [dispatchChange] at h
      split at h
      · simp [Change.answered] at h
      · split at h <;> simp [Change.answered] at h
    | releaseProvider acquisitionKey =>
      simp only [dispatchChange] at h
      split at h
      · split at h <;> simp [Change.answered] at h
      · simp [Change.answered] at h
    | acquireProvider | cancelProvider | tickIdleShutdown | observeProviderExit =>
      simp [dispatchChange, Change.answered] at h
  | resume slot clock =>
    simp only [change] at h ⊢
    split at h
    case h_1 result call await hphase =>
      refine ⟨_, hphase, .effect call await, .effect result, rfl, fun call' await' heq => ?_⟩
      obtain ⟨-, rfl⟩ := Suspension.effect.inj heq
      rfl
    case h_2 => simp [Change.answered] at h
  | answer slot answer clock =>
    simp only [change] at h ⊢
    split at h
    case h_1 suspension hphase =>
      refine ⟨_, hphase, suspension, answer, rfl, ?_⟩
      rintro call await rfl
      rfl
    case h_2 => simp [Change.answered] at h
  | perform | performed | reject => simp [change, Change.answered] at h

variable {result : NodeProviderActorEffectResult}

theorem effectChange_checking
    (h : effectChange result await = .ready ∨ effectChange result await = .wait) :
    await = .readiness := by
  cases await with
  | readiness => rfl
  | acquireFilesystem | acquireModelCache | readinessFailedSignal | acquireDuplicate
  | acquireSpawn | cancellationSignal | idleShutdownSignal =>
    cases result <;> simp [effectChange] at h
  | readinessFailedCancellation | cancellation => simp [effectChange] at h

variable {k : Suspension} {x : ChildProcessHandle}

variable {answer : Answer}

theorem answerChange_checking (h : answerChange k answer = .ready ∨ answerChange k answer = .wait) :
    ∃ call, k = .effect call .readiness := by
  simp only [answerChange] at h
  split at h
  case h_1 call await result replayed => exact ⟨call, by rw [effectChange_checking h]⟩
  all_goals simp at h

theorem change_checking (h : w.change options a = .ready ∨ w.change options a = .wait) :
    ∃ phase ∈ w.phase, phase.await = some .readiness := by
  have hanswered : (w.change options a).answered = true := by
    obtain h | h := h <;> rw [h] <;> rfl
  obtain ⟨phase, hphase, k, answer, heq, hawait⟩ := change_answered hanswered
  rw [heq] at h
  obtain ⟨call, rfl⟩ := answerChange_checking h
  exact ⟨phase, hphase, hawait call .readiness rfl⟩

theorem effectChange_handle (h : x ∈ (effectChange result await).handle) :
    await.acquiring = true := by
  cases await with
  | acquireFilesystem | acquireModelCache | acquireDuplicate | acquireSpawn => rfl
  | readinessFailedSignal | cancellationSignal | idleShutdownSignal | readiness =>
    cases result <;> simp [effectChange, Change.handle] at h
  | readinessFailedCancellation | cancellation => simp [effectChange, Change.handle] at h

theorem answerChange_handle (h : x ∈ (answerChange k answer).handle) :
    ∃ call await, k = .effect call await ∧ await.acquiring = true := by
  simp only [answerChange] at h
  split at h
  case h_1 call await result replayed => exact ⟨call, await, rfl, effectChange_handle h⟩
  all_goals simp [Change.handle] at h

theorem change_handle (h : x ∈ (w.change options a).handle) :
    ∃ phase ∈ w.phase, ∃ await, phase.await = some await ∧ await.acquiring = true := by
  have hanswered : (w.change options a).answered = true := by
    cases hchange : w.change options a <;> simp [hchange, Change.handle, Change.answered] at h ⊢
  obtain ⟨phase, hphase, k, answer, heq, hawait⟩ := change_answered hanswered
  rw [heq] at h
  obtain ⟨call, await, rfl, hacquiring⟩ := answerChange_handle h
  exact ⟨phase, hphase, await, hawait call await rfl, hacquiring⟩

variable {status : NodeProviderActorStatus}

theorem effectChange_over : effectChange result await ≠ .ended status := by
  cases await with
  | acquireFilesystem | acquireModelCache | acquireDuplicate | acquireSpawn | readiness
  | readinessFailedSignal | cancellationSignal | idleShutdownSignal =>
    cases result <;> simp [effectChange]
  | readinessFailedCancellation | cancellation => simp [effectChange]

theorem answerChange_over
    (h : answerChange k answer = .ended status) : status = .idle ∨ status = .failed := by
  simp only [answerChange] at h
  split at h
  case h_1 => exact absurd h effectChange_over
  case h_5 handle outcome observedAt =>
    obtain rfl := Change.ended.inj h
    cases outcome <;> simp [exitStatus]
  all_goals simp at h

theorem change_over (h : w.change options a = .ended status) :
    status = .idle ∨ status = .failed := by
  have hanswered : (w.change options a).answered = true := by rw [h]; rfl
  obtain ⟨-, -, k, answer, heq, -⟩ := change_answered hanswered
  exact answerChange_over (heq.symm.trans h)

theorem observed_down (options : NodeProviderActorOptions) {handle : ChildProcessHandle}
    (h : w.observed a = some handle) : (w.lifecycle.apply (w.change options a)).status ≠ .starting ∧
      (w.lifecycle.apply (w.change options a)).status ≠ .running := by
  simp only [observed] at h
  split at h
  case h_1 slot clock =>
    split at h
    case h_1 x outcome observedAt tailFailure hphase =>
      simp only [change, hphase]
      cases tailFailure with
      | some failure => simp [answerChange, ProviderLifecycle.apply]
      | none => cases outcome <;> simp [answerChange, exitStatus, ProviderLifecycle.apply]
    case h_2 => cases h
  case h_2 => cases h

theorem effectChange_stop (h : await.acquiring = true) : effectChange result await ≠ .stop := by
  cases await with
  | acquireFilesystem | acquireModelCache | acquireDuplicate | acquireSpawn =>
    cases result <;> simp [effectChange]
  | readiness | readinessFailedCancellation | readinessFailedSignal | cancellation
  | cancellationSignal | idleShutdownSignal => cases h

theorem answerChange_stop {call : EffectCall}
    (h : await.acquiring = true) : answerChange (.effect call await) answer ≠ .stop := by
  simp only [answerChange]
  split
  case h_1 c x result replayed heq =>
    obtain ⟨-, rfl⟩ := Suspension.effect.inj heq
    exact effectChange_stop h
  all_goals simp_all

theorem step_awaits (hw : Steady w) (h : step options w a = some w') {phase : TaskPhase}
    (hphase : phase ∈ w'.phase) (hawait : phase.await = some await) :
    (await = .readiness → w'.lifecycle.handle ≠ none ∧ w'.lifecycle.status ≠ .idle ∧
      w'.lifecycle.status ≠ .failed) ∧ (await.acquiring = true → w'.halted = false) := by
  have hlife := step_lifecycle h
  obtain ⟨hs, hhalted, -⟩ := step_eq h
  obtain ⟨task, htask', rfl⟩ := map_eq_some_iff.mp hphase
  cases a with
  | dispatch slot actor command clock =>
    simp only [ProviderSystem.step] at hs
    split at hs
    case h_1 =>
      rw [← some.inj hs] at htask'
      obtain ⟨call, hr⟩ := settle_await htask' hawait
      obtain ⟨hchecking, hacquiring⟩ := dispatch_await hr
      constructor
      · intro hreadiness
        obtain ⟨hhandle, hidle, hfailed, hkeep⟩ := hchecking hreadiness
        rw [hlife, change, show w.actor.dispatchChange options clock command = _ from hkeep]
        exact ⟨hhandle, hidle, hfailed⟩
      · intro hh
        obtain ⟨activation, acquisition, rfl⟩ := hacquiring hh
        exact hhalted
    case h_2 => cases hs
  | perform slot =>
    simp only [ProviderSystem.step] at hs
    split at hs
    case h_1 actor key call next htask =>
      rw [← some.inj hs] at htask'
      simp only [update_self, Option.some.injEq] at htask'
      rw [← htask'] at hawait
      have hold : TaskPhase.claimed key call next ∈ w.phase := by
        rw [ProviderSequence.phase, show w.system.tasks () = _ from htask]
        rfl
      refine ⟨fun hreadiness => ?_, fun hh => ?_⟩
      · rw [hlife]
        exact hw.checking _ hold (hawait.trans (congrArg some hreadiness))
      · simp [hhalted, acquires, change, hw.acquiring _ hold await hawait hh]
    case h_2 => cases hs
  | performed slot outcome clock =>
    simp only [ProviderSystem.step] at hs
    split at hs
    case h_1 actor key call next htask =>
      split at hs
      case isTrue =>
        rw [← some.inj hs] at htask'
        simp only [ProviderSystem.journaled, update_self, Option.some.injEq] at htask'
        rw [← htask', recordEffect_await] at hawait
        have hold : TaskPhase.performing key call next ∈ w.phase := by
          rw [ProviderSequence.phase, show w.system.tasks () = _ from htask]
          rfl
        refine ⟨fun hreadiness => ?_, fun hh => ?_⟩
        · rw [hlife]
          exact hw.checking _ hold (hawait.trans (congrArg some hreadiness))
        · simp [hhalted, acquires, change, hw.acquiring _ hold await hawait hh]
      case isFalse => cases hs
    case h_2 => cases hs
  | resume slot clock =>
    simp only [ProviderSystem.step] at hs
    split at hs
    case h_1 actor result call next htask =>
      obtain ⟨r, hr, heq⟩ := map_eq_some_iff.mp hs
      rw [← heq] at htask'
      obtain ⟨c, hnext⟩ := settle_await htask' hawait
      obtain ⟨hne, hacquiring⟩ := resume_await hr hnext
      have hold : w.phase = some (.returning result call next) := by
        rw [ProviderSequence.phase, show w.system.tasks () = _ from htask]
        rfl
      refine ⟨fun hreadiness => absurd hreadiness hne, fun hh => ?_⟩
      obtain ⟨c', x, hk, hx⟩ := hacquiring hh
      obtain ⟨-, rfl⟩ := Suspension.effect.inj hk
      rw [hhalted, hw.acquiring _ hold next rfl hx]
      simp [acquires, change, hold, answerChange_stop hx]
    case h_2 => cases hs
  | answer slot answer clock =>
    simp only [ProviderSystem.step] at hs
    split at hs
    case h_1 actor suspension htask =>
      obtain ⟨r, hr, heq⟩ := map_eq_some_iff.mp hs
      rw [← heq] at htask'
      obtain ⟨c, hnext⟩ := settle_await htask' hawait
      obtain ⟨hne, hacquiring⟩ := resume_await hr hnext
      have hold : w.phase = some (.port suspension) := by
        rw [ProviderSequence.phase, show w.system.tasks () = _ from htask]
        rfl
      refine ⟨fun hreadiness => absurd hreadiness hne, fun hh => ?_⟩
      obtain ⟨c', x, rfl, hx⟩ := hacquiring hh
      rw [hhalted, hw.acquiring _ hold x rfl hx]
      simp [acquires, change, hold, answerChange_stop hx]
    case h_2 => cases hs
  | reject slot =>
    simp only [ProviderSystem.step] at hs
    split at hs
    case h_1 =>
      rw [← some.inj hs] at htask'
      simp at htask'
    case h_2 => cases hs

theorem step_steady (hw : Steady w) (hsound : Sound options w a) (h : step options w a = some w') :
    Steady w' := by
  have hlife := step_lifecycle h
  obtain ⟨-, hhalted, hexited⟩ := step_eq h
  obtain ⟨hstopping, hfresh⟩ := hsound
  have hquiet := hw.quiet.apply (c := w.change options a)
    (fun hcheck => by
      obtain ⟨phase, hphase, hawait⟩ := change_checking hcheck
      obtain ⟨hsome, hidle, hfailed⟩ := hw.checking phase hphase hawait
      exact ⟨hsome, checked_alive (hstopping hcheck) hidle hfailed⟩)
    (fun x hx => by
      obtain ⟨phase, hphase, await, hawait, hacquiring⟩ := change_handle hx
      exact ⟨hfresh x hx, hw.acquiring phase hphase await hawait hacquiring⟩)
    (fun status hover => change_over hover)
  refine ⟨?_, fun phase hphase hawait => (step_awaits hw h hphase hawait).1 rfl,
    fun phase hphase await hawait => (step_awaits hw h hphase hawait).2⟩
  have hkept : Quiet w'.lifecycle w'.halted w.exited := by
    rw [hlife, hhalted]
    split
    case isTrue => exact hquiet.reset
    case isFalse => exact hquiet
  rw [hexited]
  cases hobserved : w.observed a with
  | none => exact hkept
  | some handle =>
    obtain ⟨hstarting, hrunning⟩ := observed_down options hobserved
    rw [← hlife] at hstarting hrunning
    exact hkept.bury hstarting hrunning (some handle)

theorem step_lawful (hw : Steady w) (hsound : Sound options w a) (h : step options w a = some w') :
    Lawful w w' := by
  have hquiet := (step_steady hw hsound h).quiet
  have hlife := step_lifecycle h
  have hexited : ∀ x ∈ w.exited, x ∈ w'.exited := fun x hx => by simp [(step_eq h).2.2, hx]
  refine ⟨hquiet.halted, fun x hx heq => ?_, fun x hx heq => ?_⟩
  · rw [hlife] at heq
    exact (apply_handle heq).resolve_right fun hgiven => hsound.2 x hgiven hx
  · by_contra hready
    have hrunning := (hquiet.ready (by simpa using hready)).1
    exact (hquiet.exited x (hexited x hx) heq).2 hrunning

end Step

/-- Over a run in which no readiness answer comes to a stopping provider and no acquisition is
answered with a process that is over, a stopped provider stays down until the next
acquisition, and a process that is over is neither taken up nor reported ready. -/
theorem lawful_when_sound {options : NodeProviderActorOptions} {as : List Action}
    (h : Guarded (step options) (Sound options) start as) :
    Along (step options) (fun w _ w' => Lawful w w') start as :=
  along_of_guarded (fun _ _ _ hw hsound ht => ⟨step_steady hw hsound ht, step_lawful hw hsound ht⟩)
    start_steady h

section Example

open ProviderLoop

/-- A command that was dispatched goes through one effect that its port performs. -/
def effect (result : NodeProviderActorEffectResult) : List Action :=
  [.perform (), .performed () (.returned result) exampleClock, .resume () exampleClock]

def acquireRun : List Action :=
  [.dispatch () () (.acquireProvider exampleKey exampleKey) exampleClock] ++ effect .probed ++
    effect .inspected

def stoppedRun : List Action :=
  acquireRun ++ effect .claimed ++ effect (.spawned exampleHandle "15:00") ++
    [.dispatch () () (.cancelProvider none none) exampleClock] ++
    effect (.cancelled ⟨.runtime, .shutdownRequested, exampleClock.nowIso, some exampleKey⟩) ++
    effect (.signaled "15:01") ++
    [.dispatch () () .observeProviderExit exampleClock,
      .answer () (.exit (.ended .cancelled "15:02")) exampleClock,
      .answer () (.tail (.tailed emptyOutputProjection emptyOutputProjection)) exampleClock,
      .answer () .captured exampleClock]

theorem stoppedRun_lawful :
    Along (step exampleOptions) (fun w _ w' => Lawful w w') start stoppedRun :=
  lawful_when_sound (by decide +kernel)

def revivedRun : List Action :=
  acquireRun ++ effect (.alreadyRunning exampleHandle "15:00") ++
    [.dispatch () () (.cancelProvider none none) exampleClock] ++
    effect (.cancelled ⟨.runtime, .shutdownRequested, exampleClock.nowIso, some exampleKey⟩) ++
    effect (.signaled "15:01") ++
    [.dispatch () () .checkProviderReadiness exampleClock] ++ effect (.ready "15:02")

/-- It runs again. -/
theorem revivedRun_not_lawful :
    ¬ Along (step exampleOptions) (fun w _ w' => Lawful w w') start revivedRun := by
  intro h
  have hlast : (exec (step exampleOptions) start revivedRun).map
      (fun w => (w.halted, w.lifecycle.status)) = some (true, .running) := by decide +kernel
  obtain ⟨w, hw, hfields⟩ := map_eq_some_iff.mp hlast
  obtain ⟨hhalted, hstatus⟩ := Prod.mk.inj hfields
  have hdown := along_invariant
    (I := fun w => w.halted = true → w.lifecycle.status ≠ .starting ∧ w.lifecycle.status ≠ .running)
    (fun _ _ _ _ _ hP => hP.down) start_steady.quiet.halted h hw
  exact (hdown hhalted).2 hstatus

/-- A provider whose exit was observed is acquired again under the same keys: the journal
answers with the process that is over. -/
def reacquiredRun : List Action :=
  stoppedRun ++ [.dispatch () () (.acquireProvider exampleKey exampleKey) exampleClock] ++
    List.replicate 4 (.resume () exampleClock)

end Example

end ProviderSequence

end ActorWeb
