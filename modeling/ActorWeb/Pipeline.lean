import Mathlib.Algebra.Order.Ring.Nat
import Mathlib.Data.List.Basic

/-! Pipelines of stages with retries, timeouts and error handlers. -/

namespace ActorWeb.Pipeline

open List

inductive Outcome (V : Type)
  | resolved (value : V)
  | rejected
  | unprintable

/-- A call of a stage function, which may end after its timeout or never. -/
structure Call (V : Type) where
  ends : Option Nat
  outcome : Outcome V
  beatsTimer : Bool

structure Retry where
  (attempts delay : Nat)
  exponential : Bool

inductive StageResult (V : Type)
  | delivered (value : V)
  | failed
  | pending

structure PipelineStageConfig (V : Type) where
  name : String
  stage : Nat → V → Call V
  timeout : Option Nat
  retry : Option Retry
  onError : V → StageResult V

inductive ErrorStrategy
  | stop | continuing | retrying
deriving DecidableEq

structure CallRecord (V : Type) where
  start : Nat
  ends : Option Nat
  input : V

section Stage

variable {V : Type} (config : PipelineStageConfig V) (input : V)

inductive Settlement (V : Type)
  | settled (after : Nat) (outcome : Outcome V)
  | never

def race (timeout : Option Nat) (call : Call V) : Settlement V :=
  match timeout, call.ends with
  | some (limit + 1), some duration =>
    if duration < limit + 1 ∨ duration = limit + 1 ∧ call.beatsTimer then
      .settled duration call.outcome
    else .settled (limit + 1) .rejected
  | some (limit + 1), none => .settled (limit + 1) .rejected
  | _, some duration => .settled duration call.outcome
  | _, none => .never

def PipelineStageConfig.maxAttempts : Nat :=
    (config.retry.map fun retry => retry.attempts + 1).getD 1

def PipelineStageConfig.delay (attempt : Nat) : Nat :=
  (config.retry.map fun retry =>
    if retry.exponential then retry.delay * 2 ^ (attempt - 1) else retry.delay).getD 0

def attemptFrom : Nat → Nat → Nat → List (CallRecord V) × StageResult V
  | left, attempt, now =>
    let call := config.stage attempt input
    let made : CallRecord V := ⟨now, call.ends, input⟩
    match race config.timeout call, left with
    | .never, _ => ([made], .pending)
    | .settled _ (.resolved value), _ => ([made], .delivered value)
    | .settled _ .unprintable, _ => ([made], .failed)
    | .settled _ .rejected, 0 => ([made], config.onError input)
    | .settled after .rejected, left + 1 =>
      let later := attemptFrom left (attempt + 1) (now + after + config.delay attempt)
      (made :: later.1, later.2)

def executeStage : List (CallRecord V) × StageResult V :=
  attemptFrom config input (config.maxAttempts - 1) 1 0

def PromptFrom : Nat → Nat → Prop
  | 0, _ => True
  | left + 1, attempt =>
    match race config.timeout (config.stage attempt input) with
    | .settled after .rejected =>
      (∃ duration, (config.stage attempt input).ends = some duration ∧
        duration ≤ after + config.delay attempt) ∧ PromptFrom left (attempt + 1)
    | _ => True

def Disjoint (calls : List (CallRecord V)) : Prop :=
  calls.Pairwise fun earlier later =>
    ∃ duration, earlier.ends = some duration ∧ earlier.start + duration ≤ later.start

variable (left attempt now : Nat)

theorem attemptFrom_cases :
    (∃ after, race config.timeout (config.stage attempt input) = .settled after .rejected ∧
      ∃ fewer, left = fewer + 1 ∧ (attemptFrom config input left attempt now).1 =
        ⟨now, (config.stage attempt input).ends, input⟩ ::
          (attemptFrom config input fewer (attempt + 1) (now + after + config.delay attempt)).1) ∨
      (left = 0 ∨ ∀ after,
        race config.timeout (config.stage attempt input) ≠ .settled after .rejected) ∧
      (attemptFrom config input left attempt now).1 =
        [⟨now, (config.stage attempt input).ends, input⟩] := by
  rw [attemptFrom.eq_def]
  dsimp only
  cases race config.timeout (config.stage attempt input) with
  | never => exact .inr ⟨.inr fun _ h => (by cases h), rfl⟩
  | settled after outcome =>
    cases outcome with
    | resolved value => exact .inr ⟨.inr fun _ h => (by cases h), rfl⟩
    | unprintable => exact .inr ⟨.inr fun _ h => (by cases h), rfl⟩
    | rejected =>
      cases left with
      | zero => exact .inr ⟨.inl rfl, rfl⟩
      | succ fewer => exact .inl ⟨after, rfl, fewer, rfl, rfl⟩

theorem attemptFrom_calls : (attemptFrom config input left attempt now).1.length ≤ left + 1 ∧
      ∀ call ∈ (attemptFrom config input left attempt now).1, call.input = input ∧ now ≤ call.start := by
  have hone : ∀ call ∈ [(⟨now, (config.stage attempt input).ends, input⟩ : CallRecord V)],
      call.input = input ∧ now ≤ call.start :=
    fun call hcall => mem_singleton.mp hcall ▸ ⟨rfl, Nat.le_refl _⟩
  induction left generalizing attempt now with
  | zero =>
    obtain ⟨_, _, fewer, hleft, -⟩ | ⟨-, hcalls⟩ := attemptFrom_cases config input 0 attempt now
    · cases hleft
    · rw [hcalls]
      exact ⟨Nat.le_refl 1, hone⟩
  | succ left ih =>
    obtain ⟨after, -, fewer, hleft, hcalls⟩ | ⟨-, hcalls⟩ :=
      attemptFrom_cases config input (left + 1) attempt now
    · cases hleft
      obtain ⟨hlength, hlater⟩ := ih (attempt + 1) (now + after + config.delay attempt)
        fun call hcall => mem_singleton.mp hcall ▸ ⟨rfl, Nat.le_refl _⟩
      rw [hcalls]
      refine ⟨Nat.succ_le_succ hlength, forall_mem_cons.mpr ⟨⟨rfl, Nat.le_refl _⟩, ?_⟩⟩
      intro call hcall
      obtain ⟨hinput, hstart⟩ := hlater call hcall
      exact ⟨hinput, by omega⟩
    · rw [hcalls]
      exact ⟨Nat.le_add_left _ _, hone⟩

theorem attemptFrom_head : ⟨now, (config.stage attempt input).ends, input⟩ ∈
      (attemptFrom config input left attempt now).1 := by
  obtain ⟨_, _, _, _, hcalls⟩ | ⟨-, hcalls⟩ := attemptFrom_cases config input left attempt now
  · exact hcalls ▸ mem_cons_self
  · exact hcalls ▸ mem_singleton_self _

theorem disjoint_iff :
    Disjoint (attemptFrom config input left attempt now).1 ↔ PromptFrom config input left attempt := by
  induction left generalizing attempt now with
  | zero =>
    obtain ⟨_, _, fewer, hleft, -⟩ | ⟨-, hcalls⟩ := attemptFrom_cases config input 0 attempt now
    · cases hleft
    · rw [hcalls, PromptFrom]
      exact iff_of_true (pairwise_singleton _ _) trivial
  | succ left ih =>
    rw [PromptFrom]
    obtain ⟨after, hrace, fewer, hleft, hcalls⟩ | ⟨hlast, hcalls⟩ :=
      attemptFrom_cases config input (left + 1) attempt now
    · cases hleft
      rw [hrace, hcalls, Disjoint, pairwise_cons]
      refine and_congr ⟨fun h => ?_, ?_⟩ (ih (attempt + 1) (now + after + config.delay attempt))
      · obtain ⟨duration, hends, hle⟩ := h _ (attemptFrom_head config input left (attempt + 1) _)
        have hle : now + duration ≤ now + after + config.delay attempt := hle
        exact ⟨duration, hends, by omega⟩
      · rintro ⟨duration, hends, hle⟩ later hlater
        have hstart := ((attemptFrom_calls config input left (attempt + 1) _).2 later hlater).2
        exact ⟨duration, hends, (by omega : now + duration ≤ later.start)⟩
    · rw [hcalls]
      refine iff_of_true (pairwise_singleton _ _) ?_
      split
      case h_1 after hrace =>
        obtain hzero | hnone := hlast
        · cases hzero
        · exact absurd hrace (hnone after)
      case h_2 => trivial

end Stage

section Execute

variable {V : Type} (errorStrategy : ErrorStrategy)

structure Attempted (V : Type) where
  config : PipelineStageConfig V
  input : V
  calls : List (CallRecord V)
  output : Option V

structure StageTiming where
  stageName : String
  success : Bool

structure Execution (V : Type) where
  attempted : List (Attempted V)
  stageTimings : List StageTiming
  result : Option V

/-- `result` is `none` when a call without a timeout never ends. -/
def execute : List (PipelineStageConfig V) → V → Execution V
  | [], currentValue => ⟨[], [], some currentValue⟩
  | config :: rest, currentValue =>
    match executeStage config currentValue with
    | (calls, .delivered value) =>
      let later := execute rest value
      { attempted := ⟨config, currentValue, calls, some value⟩ :: later.attempted
        stageTimings := ⟨config.name, true⟩ :: later.stageTimings
        result := later.result }
    | (calls, .failed) =>
      -- The break of this strategy leaves the loop before the entry is pushed.
      if errorStrategy = .stop then
        ⟨[⟨config, currentValue, calls, none⟩], [], some currentValue⟩
      else
        let later := execute rest currentValue
        { attempted := ⟨config, currentValue, calls, none⟩ :: later.attempted
          stageTimings := ⟨config.name, false⟩ :: later.stageTimings
          result := later.result }
    | (calls, .pending) => ⟨[⟨config, currentValue, calls, none⟩], [], none⟩

/-- Each stage gets the output of the last one before it that has one. -/
def Chained : V → List (Attempted V) → Prop
  | _, [] => True
  | value, attempt :: rest =>
    attempt.input = value ∧ (∀ call ∈ attempt.calls, call.input = value) ∧
      Chained (attempt.output.getD value) rest

structure Runs (stages : List (PipelineStageConfig V)) (input : V) (run : Execution V) : Prop where
  inOrder : run.attempted.map (·.config) <+: stages
  bounded : ∀ attempt ∈ run.attempted, attempt.calls.length ≤ attempt.config.maxAttempts
  chained : Chained input run.attempted
  stops : errorStrategy = .stop → run.attempted.Pairwise fun earlier _ => earlier.output.isSome
  result : ∀ value, run.result = some value →
    value = run.attempted.foldl (fun value attempt => attempt.output.getD value) input

structure Executes (stages : List (PipelineStageConfig V)) (input : V) (run : Execution V) : Prop
    extends Runs errorStrategy stages input run where
  disjoint : ∀ attempt ∈ run.attempted, Disjoint attempt.calls
  timed : run.result.isSome → run.stageTimings =
    run.attempted.map fun attempt => ⟨attempt.config.name, attempt.output.isSome⟩

def Clear : List (PipelineStageConfig V) → V → Prop
  | [], _ => True
  | config :: rest, currentValue =>
    PromptFrom config currentValue (config.maxAttempts - 1) 1 ∧
      match (executeStage config currentValue).2 with
      | .delivered value => Clear rest value
      | .failed => errorStrategy ≠ .stop ∧ Clear rest currentValue
      | .pending => True

theorem maxAttempts_pos (config : PipelineStageConfig V) : 1 ≤ config.maxAttempts := by
  rw [PipelineStageConfig.maxAttempts]
  cases config.retry with
  | none => exact Nat.le_refl 1
  | some retry => exact Nat.le_add_left 1 retry.attempts

theorem executeStage_length (config : PipelineStageConfig V) (input : V) :
    (executeStage config input).1.length ≤ config.maxAttempts := by
  have hlength := (attemptFrom_calls config input (config.maxAttempts - 1) 1 0).1
  have hpos := maxAttempts_pos config
  rw [executeStage]
  omega

theorem execute_runs (stages : List (PipelineStageConfig V)) (input : V) :
    Runs errorStrategy stages input (execute errorStrategy stages input) := by
  induction stages generalizing input with
  | nil =>
    refine ⟨ nil_prefix, fun attempt h => absurd h not_mem_nil, trivial,
      fun _ => List.Pairwise.nil, fun value h => ?_⟩
    cases h
    rfl
  | cons config rest ih =>
    have hlength := executeStage_length config input
    have hinput : ∀ call ∈ (executeStage config input).1, call.input = input :=
      fun call h => ((attemptFrom_calls config input _ 1 0).2 call h).1
    rw [execute]
    cases hstage : executeStage config input with
    | mk calls stageResult =>
      rw [hstage] at hlength hinput
      cases stageResult with
      | delivered value =>
        obtain ⟨hin, hbounded, hchained, hstops, hresult⟩ := ih value
        refine ⟨(prefix_cons_inj _).mpr hin, ?_,
          ⟨rfl, hinput, hchained⟩, fun hstop => ?_, hresult⟩
        · exact forall_mem_cons.mpr ⟨hlength, hbounded⟩
        · exact pairwise_cons.mpr ⟨fun _ _ => rfl, hstops hstop⟩
      | failed =>
        dsimp only
        split
        case isTrue =>
          refine ⟨prefix_append [config] rest, ?_, ⟨rfl, hinput, trivial⟩,
            fun _ => pairwise_singleton _ _, fun value h => ?_⟩
          · exact forall_mem_cons.mpr ⟨hlength, fun _ h => absurd h not_mem_nil⟩
          · cases h
            rfl
        case isFalse hgoes =>
          obtain ⟨hin, hbounded, hchained, -, hresult⟩ := ih input
          refine ⟨(prefix_cons_inj _).mpr hin, ?_, ⟨rfl, hinput, hchained⟩,
            fun hstop => absurd hstop hgoes, hresult⟩
          exact forall_mem_cons.mpr ⟨hlength, hbounded⟩
      | pending =>
        refine ⟨prefix_append [config] rest, ?_, ⟨rfl, hinput, trivial⟩,
          fun _ => pairwise_singleton _ _, fun value h => by cases h⟩
        exact forall_mem_cons.mpr ⟨hlength, fun _ h => absurd h not_mem_nil⟩

theorem kept_iff (stages : List (PipelineStageConfig V)) (input : V) :
    (∀ attempt ∈ (execute errorStrategy stages input).attempted, Disjoint attempt.calls) ∧
      ((execute errorStrategy stages input).result.isSome →
        (execute errorStrategy stages input).stageTimings =
          (execute errorStrategy stages input).attempted.map fun attempt =>
            ⟨attempt.config.name, attempt.output.isSome⟩) ↔ Clear errorStrategy stages input := by
  induction stages generalizing input with
  | nil => exact ⟨fun _ => trivial, fun _ => ⟨fun _ h => absurd h not_mem_nil, fun _ => rfl⟩⟩
  | cons config rest ih =>
    have hdisjoint : Disjoint (executeStage config input).1 ↔ _ :=
      disjoint_iff config input (config.maxAttempts - 1) 1 0
    rw [execute, Clear, ← hdisjoint]
    cases hstage : executeStage config input with
    | mk calls stageResult =>
      cases stageResult with
      | delivered value =>
        simp only [forall_mem_cons, map_cons, Option.isSome_some, List.cons.injEq,
          true_and, ← ih value, and_assoc]
      | failed =>
        dsimp only
        split
        case isTrue hstop => simp [hstop]
        case isFalse hgoes =>
          simp only [forall_mem_cons, map_cons, Option.isSome_none, List.cons.injEq,
            true_and, ← ih input, and_assoc, ne_eq, hgoes, not_false_eq_true]
      | pending => simp

end Execute

def failing : PipelineStageConfig Nat where
  name := "stage"
  stage _ _ := ⟨some 0, .rejected, true⟩
  timeout := none
  retry := none
  onError _ := .failed

end ActorWeb.Pipeline
