import ActorWeb.Redaction
import Mathlib.Data.List.Count

/-! The interceptor that re-sends messages whose handling failed, and its circuit breaker. -/

namespace ActorWeb.Retries

open Option List AgentTraces

section Interceptor

structure Thrown where
  (name message : String)

variable {M : Type}

/-- The options; messages of type `M` are told apart as objects. Their callbacks are steps of the
model, and the delays of re-sends, which are random, come with the errors. -/
structure RetryOptions (M : Type) where
  (maxRetries circuitThreshold circuitResetTimeout : Option Nat)
  isRetryable : Option (Thrown → Bool)
  shouldRetry : Option (M → Bool)

def defaultIsRetryable (error : Thrown) : Bool :=
  let includesWord := includes error.message.toList
  if error.name = "TypeError" || error.name = "ReferenceError" then false
  else if includesWord "validation" || includesWord "invalid" then false
  else if includesWord "timeout" || includesWord "network" then true
  else true

structure Config (M : Type) where
  (maxRetries circuitThreshold circuitResetTimeout : Nat)
  isRetryable : Thrown → Bool
  shouldRetry : M → Bool

def RetryOptions.config (options : RetryOptions M) : Config M where
  maxRetries := options.maxRetries.getD 3
  circuitThreshold := options.circuitThreshold.getD 10
  circuitResetTimeout := options.circuitResetTimeout.getD 60000
  isRetryable := options.isRetryable.getD defaultIsRetryable
  shouldRetry := options.shouldRetry.getD fun _ => true

inductive CircuitState
  | closed | opened | halfOpen
deriving DecidableEq

inductive Task (M : Type)
  | retryMessage (actor : String) (message : M)
  | halfOpenCircuit
deriving DecidableEq

structure Timer (M : Type) where
  (id due : Nat)
  task : Task M
deriving DecidableEq

/-- What the functions of the interceptor wait for: a callback of the options, or a promise. -/
inductive Waiting (M : Type)
  | onRetry (actor : String) (message : M) (delay : Nat)
  | onMaxRetriesExceeded (message : M)
  | lookup (actor : String) (message : M)
  | send (message : M)
deriving DecidableEq

inductive Occurrence (M : Type)
  | failure
  | circuit (previous next : CircuitState) (time : Nat)
  | sent (message : M) (circuit : CircuitState)
  | exceeded (message : M)
deriving DecidableEq

/-- The interceptor, with the clock and the log, whose newest entry comes first. -/
structure Interceptor (M : Type) where
  retryMetadata : M → Option Nat
  failures : Nat
  circuitState : CircuitState
  circuitOpenedAt : Nat
  resetTimer : Option Nat
  actorSystem : Bool
  timers : List (Timer M)
  nextTimer : Nat
  waiting : List (Waiting M)
  now : Nat
  log : List (Occurrence M)

def Interceptor.new (M : Type) : Interceptor M :=
  ⟨fun _ => none, 0, .closed, 0, none, false, [], 0, [], 0, []⟩

def timerDelay (delay : Nat) : Nat := if delay ≤ 2147483647 then delay else 1

def setTimeout (s : Interceptor M) (task : Task M) (delay : Nat) : Interceptor M :=
  { s with
    timers := s.timers ++ [⟨s.nextTimer, s.now + timerDelay delay, task⟩]
    nextTimer := s.nextTimer + 1 }

def openCircuit (cfg : Config M) (s : Interceptor M) : Interceptor M :=
  if s.circuitState = .opened then s
  else
    { setTimeout s .halfOpenCircuit cfg.circuitResetTimeout with
      circuitState := .opened
      circuitOpenedAt := s.now
      resetTimer := some s.nextTimer
      log := .circuit s.circuitState .opened s.now :: s.log }

def halfOpenCircuit (s : Interceptor M) : Interceptor M :=
  { s with
    circuitState := .halfOpen
    resetTimer := none
    log := .circuit s.circuitState .halfOpen s.now :: s.log }

def closeCircuit (s : Interceptor M) : Interceptor M :=
  if s.circuitState = .closed then s
  else
    { s with
      circuitState := .closed
      failures := 0
      timers := s.timers.filter fun timer => some timer.id ≠ s.resetTimer
      resetTimer := none
      log := .circuit s.circuitState .closed s.now :: s.log }

def countFailure (s : Interceptor M) : Interceptor M :=
  { s with failures := s.failures + 1, log := .failure :: s.log }

def recordFailure (cfg : Config M) (s : Interceptor M) : Interceptor M :=
  let counted := countFailure s
  if counted.circuitState = .halfOpen then openCircuit cfg counted
  else if counted.circuitState = .closed ∧ cfg.circuitThreshold ≤ counted.failures then
    openCircuit cfg counted
  else counted

variable [DecidableEq M]

def setMetadata (s : Interceptor M) (message : M) (attempts : Option Nat) : Interceptor M :=
  { s with retryMetadata := fun m => if m = message then attempts else s.retryMetadata m }

def recordSuccess (s : Interceptor M) (message : M) : Interceptor M :=
  let cleaned := setMetadata s message none
  if cleaned.circuitState = .halfOpen then closeCircuit cleaned else cleaned

def retryable (cfg : Config M) (error : Thrown) (message : M) : Bool :=
  cfg.shouldRetry message && cfg.isRetryable error

/-- `onError`, up to the call of a callback. -/
def onError (cfg : Config M) (s : Interceptor M) (error : Thrown) (message : M) (actor : String)
    (delay : Nat) : Interceptor M :=
  if s.circuitState = .opened then s
  else if retryable cfg error message = false then s
  else
    let attempts := (s.retryMetadata message).getD 0 + 1
    if cfg.maxRetries ≤ attempts then
      { setMetadata s message none with
        waiting := .onMaxRetriesExceeded message :: s.waiting
        log := .exceeded message :: s.log }
    else
      { setMetadata s message (some attempts) with
        waiting := .onRetry actor message delay :: s.waiting }

/-- `retryMessage`, up to the lookup. -/
def retryMessage (cfg : Config M) (s : Interceptor M) (actor : String) (message : M) :
    Interceptor M :=
  if s.actorSystem = false then recordFailure cfg s
  else if s.circuitState = .opened then s
  else { s with waiting := .lookup actor message :: s.waiting }

/-- The branch of a lookup without an actor. When the callback for an open circuit throws there, the
failure is recorded once more. -/
def targetMissing (cfg : Config M) (s : Interceptor M) (callbackThrows : Bool) : Interceptor M :=
  let recorded := recordFailure cfg s
  if callbackThrows ∧ s.circuitState ≠ .opened ∧ recorded.circuitState = .opened then
    recordFailure cfg recorded
  else recorded

inductive Action (M : Type)
  | onError (error : Thrown) (message : M) (actor : String) (delay : Nat)
  | callbackReturns (callback : Waiting M)
  | callbackThrows (callback : Waiting M)
  | lookupFinds (actor : String) (message : M)
  | lookupMisses (actor : String) (message : M) (callbackThrows : Bool)
  | lookupRejects (actor : String) (message : M)
  | sendResolves (message : M)
  | sendRejects (message : M)
  | fires (timer : Timer M)
  | passes (duration : Nat)
  | recordSuccess (message : M)
  | resetCircuit
  | setActorSystem
  | destroy

def settle (s : Interceptor M) (w : Waiting M) : Option (Interceptor M) :=
  if w ∈ s.waiting then some { s with waiting := s.waiting.erase w } else none

def fire (cfg : Config M) (s : Interceptor M) (timer : Timer M) : Interceptor M :=
  match timer.task with
  | .retryMessage actor message => retryMessage cfg s actor message
  | .halfOpenCircuit => halfOpenCircuit s

def step (cfg : Config M) (s : Interceptor M) : Action M → Option (Interceptor M)
  | .onError error message actor delay => some (onError cfg s error message actor delay)
  | .callbackReturns (.onRetry actor message delay) =>
    (settle s (.onRetry actor message delay)).map fun s =>
      setTimeout s (.retryMessage actor message) delay
  | .callbackReturns (.onMaxRetriesExceeded message) =>
    (settle s (.onMaxRetriesExceeded message)).map (recordFailure cfg)
  | .callbackThrows (.onRetry actor message delay) => settle s (.onRetry actor message delay)
  | .callbackThrows (.onMaxRetriesExceeded message) => settle s (.onMaxRetriesExceeded message)
  | .callbackReturns _ | .callbackThrows _ => none
  | .lookupFinds actor message =>
    (settle s (.lookup actor message)).map fun s =>
      { s with
        waiting := .send message :: s.waiting
        log := .sent message s.circuitState :: s.log }
  | .lookupMisses actor message callbackThrows =>
    (settle s (.lookup actor message)).map fun s => targetMissing cfg s callbackThrows
  | .lookupRejects actor message => (settle s (.lookup actor message)).map (recordFailure cfg)
  | .sendResolves message => settle s (.send message)
  | .sendRejects message => (settle s (.send message)).map (recordFailure cfg)
  | .fires timer =>
    if timer ∈ s.timers ∧ timer.due ≤ s.now then
      some (fire cfg { s with timers := s.timers.erase timer } timer)
    else none
  | .passes duration => some { s with now := s.now + duration }
  | .recordSuccess message => some (recordSuccess s message)
  | .resetCircuit => some (closeCircuit s)
  | .setActorSystem => some { s with actorSystem := true }
  | .destroy => some { s with retryMetadata := fun _ => none, timers := [] }

inductive Reach (cfg : Config M) (meets : Interceptor M → Interceptor M → Prop) :
    Interceptor M → Prop
  | new : Reach cfg meets (.new M)
  | step {s t : Interceptor M} {a : Action M} (hs : Reach cfg meets s)
      (hstep : step cfg s a = some t) (hmeets : meets s t) : Reach cfg meets t

end Interceptor

section Properties

variable {M : Type}

def failuresSinceClosed : List (Occurrence M) → Nat
  | [] => 0
  | .circuit _ .closed _ :: _ => 0
  | .failure :: log => failuresSinceClosed log + 1
  | _ :: log => failuresSinceClosed log

def latestOpening : List (Occurrence M) → Option Nat
  | [] => none
  | .circuit _ .opened time :: _ => some time
  | _ :: log => latestOpening log

structure Orderly (cfg : Config M) (log : List (Occurrence M)) : Prop where
  opened : ∀ time rest, .circuit .closed .opened time :: rest <:+ log →
    cfg.circuitThreshold ≤ failuresSinceClosed rest
  halfOpened : ∀ previous time rest, .circuit previous .halfOpen time :: rest <:+ log →
    previous = .opened ∧ ∃ openedAt, latestOpening rest = some openedAt ∧
      openedAt + cfg.circuitResetTimeout ≤ time

def NothingSentOpen (log : List (Occurrence M)) : Prop :=
  ∀ message, .sent message .opened ∉ log

def OpensApart (s t : Interceptor M) : Prop :=
  s.circuitState ≠ .opened → t.circuitState = .opened →
    ∀ actor message, .lookup actor message ∉ s.waiting

variable [DecidableEq M]

def sentTimes (message : M) (s : Interceptor M) : Nat :=
  s.log.countP fun o => match o with
    | .sent m _ => m = message
    | _ => false

def exceededTimes (message : M) (s : Interceptor M) : Nat := s.log.count (.exceeded message)

def Waiting.resends (message : M) : Waiting M → Bool
  | .onRetry _ m _ | .lookup _ m => m = message
  | .onMaxRetriesExceeded _ | .send _ => false

def Timer.resends (message : M) (timer : Timer M) : Bool :=
  match timer.task with
  | .retryMessage _ m => m = message
  | .halfOpenCircuit => false

def underWay (message : M) (s : Interceptor M) : Nat :=
  s.waiting.countP (Waiting.resends message) + s.timers.countP (Timer.resends message)

/-- The step of a run in which the handling of a message keeps failing, the circuit stays closed and
every re-send arrives: errors come from deliveries and may be retried, callbacks return, and actors
are found. -/
def Keeps (cfg : Config M) (message : M) (deliveries : Nat) (s : Interceptor M) : Action M → Prop
  | .onError error m _ _ => m = message → 0 < deliveries ∧ retryable cfg error message = true
  | .callbackThrows w => w.resends message = false
  | .lookupMisses _ m _ | .lookupRejects _ m | .recordSuccess m => m ≠ message
  | .fires timer => timer.resends message = true → s.actorSystem = true
  | .destroy => False
  | _ => True

def deliveriesAfter (message : M) (deliveries : Nat) : Action M → Nat
  | .onError _ m _ _ => if m = message then deliveries - 1 else deliveries
  | .lookupFinds _ m => if m = message then deliveries + 1 else deliveries
  | _ => deliveries

/-- A run, from a state in which the message is delivered for the first time, in which its handling
keeps failing. -/
inductive Failing (cfg : Config M) (message : M) (s₀ : Interceptor M) : Nat → Interceptor M → Prop
  | start (hfirst : s₀.retryMetadata message = none) (hidle : underWay message s₀ = 0) :
      Failing cfg message s₀ 1 s₀
  | step {deliveries : Nat} {s t : Interceptor M} {a : Action M}
      (hs : Failing cfg message s₀ deliveries s) (hclosed : s.circuitState = .closed)
      (hkeeps : Keeps cfg message deliveries s a) (hstep : Retries.step cfg s a = some t) :
      Failing cfg message s₀ (deliveriesAfter message deliveries a) t

end Properties

section Circuit

variable {M : Type} {cfg : Config M} {s t : Interceptor M}

def Timer.halfOpens (timer : Timer M) : Bool :=
  match timer.task with
  | .retryMessage _ _ => false
  | .halfOpenCircuit => true

structure Kept (cfg : Config M) (s : Interceptor M) : Prop where
  failures : s.failures = failuresSinceClosed s.log
  orderly : Orderly cfg s.log
  latest : s.circuitState = .opened → latestOpening s.log = some s.circuitOpenedAt
  timers : s.timers.filter Timer.halfOpens = [] ∨
    s.circuitState = .opened ∧ ∃ timer, s.timers.filter Timer.halfOpens = [timer] ∧
      s.resetTimer = some timer.id ∧ s.circuitOpenedAt + cfg.circuitResetTimeout ≤ timer.due

def Occurrence.Aside : Occurrence M → Prop
  | .failure | .circuit _ _ _ => False
  | .sent _ _ | .exceeded _ => True

theorem Orderly.cons {o : Occurrence M} {log : List (Occurrence M)} (h : Orderly cfg log)
    (hopened : ∀ time, o = .circuit .closed .opened time →
      cfg.circuitThreshold ≤ failuresSinceClosed log)
    (hhalf : ∀ previous time, o = .circuit previous .halfOpen time → previous = .opened ∧
      ∃ openedAt, latestOpening log = some openedAt ∧ openedAt + cfg.circuitResetTimeout ≤ time) :
    Orderly cfg (o :: log) := by
  constructor
  · intro time rest hrest
    obtain heq | hrest := suffix_cons_iff.mp hrest
    · cases heq
      exact hopened time rfl
    · exact h.opened time rest hrest
  · intro previous time rest hrest
    obtain heq | hrest := suffix_cons_iff.mp hrest
    · cases heq
      exact hhalf previous time rfl
    · exact h.halfOpened previous time rest hrest

structure SameCircuit (s t : Interceptor M) : Prop where
  failures : t.failures = s.failures
  circuitState : t.circuitState = s.circuitState
  circuitOpenedAt : t.circuitOpenedAt = s.circuitOpenedAt
  resetTimer : t.resetTimer = s.resetTimer
  timers : t.timers.filter Timer.halfOpens = s.timers.filter Timer.halfOpens
  log : t.log = s.log ∨ ∃ o : Occurrence M, o.Aside ∧ t.log = o :: s.log

theorem Kept.same (hs : Kept cfg s) (h : SameCircuit s t) : Kept cfg t := by
  obtain ⟨hfailures, hcircuit, hopenedAt, hreset, htimers, hlog⟩ := h
  have hlogs : failuresSinceClosed t.log = failuresSinceClosed s.log ∧
      latestOpening t.log = latestOpening s.log ∧ Orderly cfg t.log := by
    obtain heq | ⟨o, haside, heq⟩ := hlog
    · rw [heq]
      exact ⟨rfl, rfl, hs.orderly⟩
    · rw [heq]
      cases o with
      | failure => cases haside
      | circuit previous next time => cases haside
      | sent message circuit | exceeded message =>
        exact ⟨rfl, rfl, hs.orderly.cons (fun _ h => (by cases h)) fun _ _ h => (by cases h)⟩
  constructor
  · rw [hfailures, hlogs.1, hs.failures]
  · exact hlogs.2.2
  · rw [hcircuit, hlogs.2.1, hopenedAt]
    exact hs.latest
  · rw [hcircuit, htimers, hopenedAt, hreset]
    exact hs.timers

theorem Kept.timers_eq_nil (hs : Kept cfg s) (h : s.circuitState ≠ .opened) :
    s.timers.filter Timer.halfOpens = [] :=
  hs.timers.resolve_right fun hopened => h hopened.1

theorem openCircuit_kept (htimeout : cfg.circuitResetTimeout ≤ 2147483647) (hs : Kept cfg s)
    (hthreshold : s.circuitState = .closed → cfg.circuitThreshold ≤ s.failures) :
    Kept cfg (openCircuit cfg s) := by
  unfold openCircuit
  by_cases hopened : s.circuitState = .opened
  · rw [if_pos hopened]
    exact hs
  · rw [if_neg hopened]
    constructor
    · exact hs.failures.trans (by cases s.circuitState <;> rfl)
    · refine hs.orderly.cons (fun time h => ?_) fun previous time h => ?_
      · rw [← hs.failures]
        exact hthreshold (Occurrence.circuit.inj h).1
      · cases (Occurrence.circuit.inj h).2.1
    · exact fun _ => rfl
    · refine .inr ⟨rfl, ⟨s.nextTimer, s.now + timerDelay cfg.circuitResetTimeout,
        .halfOpenCircuit⟩, ?_, rfl, ?_⟩
      · change List.filter Timer.halfOpens (s.timers ++ _) = _
        rw [filter_append, hs.timers_eq_nil hopened]
        rfl
      · change _ ≤ s.now + timerDelay _
        rw [timerDelay, if_pos htimeout]

theorem countFailure_kept (hs : Kept cfg s) : Kept cfg (countFailure s) := by
  constructor
  · exact congrArg (· + 1) hs.failures
  · exact hs.orderly.cons (fun _ h => (by cases h)) fun _ _ h => (by cases h)
  · exact hs.latest
  · exact hs.timers

theorem recordFailure_kept (htimeout : cfg.circuitResetTimeout ≤ 2147483647) (hs : Kept cfg s) :
    Kept cfg (recordFailure cfg s) := by
  have hcounted := countFailure_kept hs
  unfold recordFailure
  by_cases hhalf : (countFailure s).circuitState = .halfOpen
  · simp only [if_pos hhalf]
    exact openCircuit_kept htimeout hcounted fun h => (by rw [hhalf] at h; cases h)
  · simp only [if_neg hhalf]
    by_cases hclosed : (countFailure s).circuitState = .closed ∧
        cfg.circuitThreshold ≤ (countFailure s).failures
    · rw [if_pos hclosed]
      exact openCircuit_kept htimeout hcounted fun _ => hclosed.2
    · rw [if_neg hclosed]
      exact hcounted

theorem closeCircuit_kept (hs : Kept cfg s) : Kept cfg (closeCircuit s) := by
  unfold closeCircuit
  by_cases hclosed : s.circuitState = .closed
  · rw [if_pos hclosed]
    exact hs
  · rw [if_neg hclosed]
    constructor
    · rfl
    · exact hs.orderly.cons (fun _ h => (by cases (Occurrence.circuit.inj h).2.1))
        fun _ _ h => (by cases (Occurrence.circuit.inj h).2.1)
    · exact fun h => (by cases h)
    · refine .inl ?_
      change List.filter _ (List.filter _ s.timers) = []
      rw [filter_comm]
      obtain hnone | ⟨-, timer, hone, hreset, -⟩ := hs.timers
      · rw [hnone]
        rfl
      · rw [hone, hreset]
        simp

theorem halfOpenCircuit_kept (hs : Kept cfg s) (hopened : s.circuitState = .opened)
    (hnone : s.timers.filter Timer.halfOpens = [])
    (hdue : s.circuitOpenedAt + cfg.circuitResetTimeout ≤ s.now) : Kept cfg (halfOpenCircuit s) := by
  constructor
  · exact hs.failures
  · refine hs.orderly.cons (fun time h => (by cases (Occurrence.circuit.inj h).2.1))
      fun previous time h => ?_
    obtain ⟨hprevious, -, htime⟩ := Occurrence.circuit.inj h
    exact ⟨hprevious.symm.trans hopened, _, hs.latest hopened, htime ▸ hdue⟩
  · exact fun h => (by cases h)
  · exact .inl hnone

variable [DecidableEq M]

theorem settle_eq_some {w : Waiting M} (h : settle s w = some t) :
    w ∈ s.waiting ∧ t = { s with waiting := s.waiting.erase w } := by
  unfold settle at h
  by_cases hmem : w ∈ s.waiting
  · rw [if_pos hmem] at h
    exact ⟨hmem, (some.inj h).symm⟩
  · rw [if_neg hmem] at h
    cases h

theorem settle_kept {w : Waiting M} (hs : Kept cfg s) (h : settle s w = some t) : Kept cfg t := by
  obtain ⟨-, rfl⟩ := settle_eq_some h
  exact hs.same ⟨rfl, rfl, rfl, rfl, rfl, .inl rfl⟩

theorem onError_kept (hs : Kept cfg s) (error : Thrown) (message : M) (actor : String) (delay : Nat) :
    Kept cfg (onError cfg s error message actor delay) := by
  unfold onError
  by_cases hopened : s.circuitState = .opened
  · rw [if_pos hopened]
    exact hs
  · rw [if_neg hopened]
    by_cases hretry : retryable cfg error message = false
    · rw [if_pos hretry]
      exact hs
    · rw [if_neg hretry]
      by_cases hmax : cfg.maxRetries ≤ (s.retryMetadata message).getD 0 + 1
      · simp only [if_pos hmax]
        exact hs.same ⟨rfl, rfl, rfl, rfl, rfl, .inr ⟨.exceeded message, trivial, rfl⟩⟩
      · simp only [if_neg hmax]
        exact hs.same ⟨rfl, rfl, rfl, rfl, rfl, .inl rfl⟩

theorem fire_kept (htimeout : cfg.circuitResetTimeout ≤ 2147483647) (hs : Kept cfg s)
    {timer : Timer M} (hmem : timer ∈ s.timers) (hdue : timer.due ≤ s.now) :
    Kept cfg (fire cfg { s with timers := s.timers.erase timer } timer) := by
  have herase : (s.timers.erase timer).filter Timer.halfOpens =
      (s.timers.filter Timer.halfOpens).erase timer := erase_filter.symm
  unfold fire
  cases htask : timer.task with
  | retryMessage actor message =>
    have hnot : timer ∉ s.timers.filter Timer.halfOpens := by
      rw [mem_filter, Timer.halfOpens, htask]
      exact fun h => (by cases h.2)
    have herased : Kept cfg { s with timers := s.timers.erase timer } :=
      hs.same ⟨rfl, rfl, rfl, rfl, herase.trans (erase_of_not_mem hnot), .inl rfl⟩
    dsimp only
    unfold retryMessage
    by_cases hsystem : s.actorSystem = false
    · rw [if_pos hsystem]
      exact recordFailure_kept htimeout herased
    · rw [if_neg hsystem]
      by_cases hopened : s.circuitState = .opened
      · rw [if_pos hopened]
        exact herased
      · rw [if_neg hopened]
        exact herased.same ⟨rfl, rfl, rfl, rfl, rfl, .inl rfl⟩
  | halfOpenCircuit =>
    have hhalf : timer ∈ s.timers.filter Timer.halfOpens := by
      rw [mem_filter, Timer.halfOpens, htask]
      exact ⟨hmem, rfl⟩
    obtain hnone | ⟨hopened, reset, hone, -, htime⟩ := hs.timers
    · rw [hnone] at hhalf
      cases hhalf
    · rw [hone] at hhalf herase
      obtain rfl := mem_singleton.mp hhalf
      have hnone : (s.timers.erase timer).filter Timer.halfOpens = [] := by
        rw [herase, erase_cons_head]
      have herased : Kept cfg { s with timers := s.timers.erase timer } :=
        ⟨hs.failures, hs.orderly, hs.latest, .inl hnone⟩
      exact halfOpenCircuit_kept herased hopened hnone (htime.trans hdue)

theorem step_kept (htimeout : cfg.circuitResetTimeout ≤ 2147483647) (hs : Kept cfg s)
    {a : Action M} (h : step cfg s a = some t) : Kept cfg t := by
  cases a with
  | onError error message actor delay =>
    cases h
    exact onError_kept hs error message actor delay
  | callbackReturns w =>
    cases w with
    | onRetry actor message delay =>
      obtain ⟨s', hsettle, rfl⟩ := map_eq_some_iff.mp h
      refine (settle_kept hs hsettle).same ⟨rfl, rfl, rfl, rfl, ?_, .inl rfl⟩
      exact (filter_append _ _).trans (append_nil _)
    | onMaxRetriesExceeded message =>
      obtain ⟨s', hsettle, rfl⟩ := map_eq_some_iff.mp h
      exact recordFailure_kept htimeout (settle_kept hs hsettle)
    | lookup actor message => cases h
    | send message => cases h
  | callbackThrows w =>
    cases w with
    | onRetry actor message delay => exact settle_kept hs h
    | onMaxRetriesExceeded message => exact settle_kept hs h
    | lookup actor message => cases h
    | send message => cases h
  | lookupFinds actor message =>
    obtain ⟨s', hsettle, rfl⟩ := map_eq_some_iff.mp h
    exact (settle_kept hs hsettle).same
      ⟨rfl, rfl, rfl, rfl, rfl, .inr ⟨.sent message _, trivial, rfl⟩⟩
  | lookupMisses actor message callbackThrows =>
    obtain ⟨s', hsettle, rfl⟩ := map_eq_some_iff.mp h
    have hrecorded := recordFailure_kept htimeout (settle_kept hs hsettle)
    unfold targetMissing
    dsimp only
    split
    · exact recordFailure_kept htimeout hrecorded
    · exact hrecorded
  | lookupRejects actor message | sendRejects message =>
    obtain ⟨s', hsettle, rfl⟩ := map_eq_some_iff.mp h
    exact recordFailure_kept htimeout (settle_kept hs hsettle)
  | sendResolves message => exact settle_kept hs h
  | fires timer =>
    simp only [step] at h
    by_cases hfires : timer ∈ s.timers ∧ timer.due ≤ s.now
    · rw [if_pos hfires] at h
      cases h
      exact fire_kept htimeout hs hfires.1 hfires.2
    · rw [if_neg hfires] at h
      cases h
  | passes duration | setActorSystem =>
    cases h
    exact hs.same ⟨rfl, rfl, rfl, rfl, rfl, .inl rfl⟩
  | recordSuccess message =>
    cases h
    have hcleaned : Kept cfg (setMetadata s message none) :=
      hs.same ⟨rfl, rfl, rfl, rfl, rfl, .inl rfl⟩
    unfold recordSuccess
    dsimp only
    split
    · exact closeCircuit_kept hcleaned
    · exact hcleaned
  | resetCircuit =>
    cases h
    exact closeCircuit_kept hs
  | destroy =>
    cases h
    exact ⟨hs.failures, hs.orderly, hs.latest, .inl rfl⟩

theorem reach_kept (htimeout : cfg.circuitResetTimeout ≤ 2147483647)
    {meets : Interceptor M → Interceptor M → Prop} (h : Reach cfg meets s) : Kept cfg s := by
  induction h with
  | new =>
    refine ⟨rfl, ⟨fun time rest h => ?_, fun previous time rest h => ?_⟩, fun h => (by cases h),
      .inl rfl⟩
    · cases suffix_nil.mp h
    · cases suffix_nil.mp h
  | step _ hstep _ ih => exact step_kept htimeout ih hstep

end Circuit

section Messages

variable {M : Type} {cfg : Config M} {s t : Interceptor M}

/-- What changes of the circuit leave as it was: all that is said of messages. -/
structure SameMessages (s t : Interceptor M) : Prop where
  retryMetadata : t.retryMetadata = s.retryMetadata
  waiting : t.waiting = s.waiting
  timers : t.timers.filter (fun timer => !timer.halfOpens) =
    s.timers.filter (fun timer => !timer.halfOpens)
  log : ∃ news : List (Occurrence M), (∀ o ∈ news, ¬ o.Aside) ∧ t.log = news ++ s.log

theorem SameMessages.refl (s : Interceptor M) : SameMessages s s :=
  ⟨rfl, rfl, rfl, [], forall_mem_nil _, rfl⟩

theorem SameMessages.trans {r : Interceptor M} (h : SameMessages r s) (h' : SameMessages s t) :
    SameMessages r t := by
  obtain ⟨news, hnews, hlog⟩ := h.log
  obtain ⟨news', hnews', hlog'⟩ := h'.log
  refine ⟨h'.retryMetadata.trans h.retryMetadata, h'.waiting.trans h.waiting,
    h'.timers.trans h.timers, news' ++ news, ?_, ?_⟩
  · exact forall_mem_append.mpr ⟨hnews', hnews⟩
  · rw [hlog', hlog, append_assoc]

theorem openCircuit_messages (s : Interceptor M) : SameMessages s (openCircuit cfg s) := by
  unfold openCircuit
  by_cases hopened : s.circuitState = .opened
  · rw [if_pos hopened]
    exact .refl s
  · rw [if_neg hopened]
    refine ⟨rfl, rfl, ?_, [.circuit s.circuitState .opened s.now],
      forall_mem_singleton.mpr fun h => h, rfl⟩
    exact (filter_append _ _).trans (append_nil _)

theorem recordFailure_messages (s : Interceptor M) : SameMessages s (recordFailure cfg s) := by
  have hcounted : SameMessages s (countFailure s) :=
    ⟨rfl, rfl, rfl, [.failure], forall_mem_singleton.mpr fun h => h, rfl⟩
  unfold recordFailure
  dsimp only
  split
  · exact hcounted.trans (openCircuit_messages _)
  · split
    · exact hcounted.trans (openCircuit_messages _)
    · exact hcounted

theorem targetMissing_messages (s : Interceptor M) (callbackThrows : Bool) :
    SameMessages s (targetMissing cfg s callbackThrows) := by
  unfold targetMissing
  dsimp only
  split
  · exact (recordFailure_messages s).trans (recordFailure_messages _)
  · exact recordFailure_messages s

theorem SameMessages.mem_sent {message : M} {circuit : CircuitState} (h : SameMessages s t) :
    .sent message circuit ∈ t.log ↔ .sent message circuit ∈ s.log := by
  obtain ⟨news, hnews, hlog⟩ := h.log
  rw [hlog, mem_append]
  exact or_iff_right fun hmem => hnews _ hmem trivial

end Messages

section Opened

variable {M : Type} [DecidableEq M] {cfg : Config M} {s t : Interceptor M}

structure Sends (s t : Interceptor M) : Prop where
  lookups : t.circuitState = .opened → ∀ actor message, .lookup actor message ∈ t.waiting →
    .lookup actor message ∈ s.waiting
  sent : ∀ message, .sent message .opened ∈ t.log → .sent message .opened ∈ s.log ∨
    s.circuitState = .opened ∧ ∃ actor, .lookup actor message ∈ s.waiting

omit [DecidableEq M] in
theorem Sends.of_same (hwaiting : ∀ w ∈ t.waiting, w ∈ s.waiting) (hlog : t.log = s.log) :
    Sends s t :=
  ⟨fun _ _ _ h => hwaiting _ h, fun _ h => .inl (hlog ▸ h)⟩

omit [DecidableEq M] in
theorem Sends.after {r : Interceptor M} (hwaiting : ∀ w ∈ s.waiting, w ∈ r.waiting)
    (hlog : s.log = r.log) (h : SameMessages s t) : Sends r t := by
  constructor
  · intro _ actor message hmem
    rw [h.waiting] at hmem
    exact hwaiting _ hmem
  · intro message hmem
    rw [h.mem_sent, hlog] at hmem
    exact .inl hmem

theorem settle_waiting {w : Waiting M} (h : settle s w = some t) :
    (∀ w' ∈ t.waiting, w' ∈ s.waiting) ∧ t.log = s.log := by
  obtain ⟨-, rfl⟩ := settle_eq_some h
  exact ⟨fun _ h => mem_of_mem_erase h, rfl⟩

theorem onError_sends (s : Interceptor M) (error : Thrown) (message : M) (actor : String)
    (delay : Nat) : Sends s (onError cfg s error message actor delay) := by
  unfold onError
  by_cases hopened : s.circuitState = .opened
  · rw [if_pos hopened]
    exact .of_same (fun _ h => h) rfl
  · rw [if_neg hopened]
    by_cases hretry : retryable cfg error message = false
    · rw [if_pos hretry]
      exact .of_same (fun _ h => h) rfl
    · rw [if_neg hretry]
      by_cases hmax : cfg.maxRetries ≤ (s.retryMetadata message).getD 0 + 1
      · simp only [if_pos hmax]
        refine ⟨fun h => absurd h hopened, fun _ h => .inl ?_⟩
        exact (mem_cons.mp h).resolve_left fun h => (by cases h)
      · simp only [if_neg hmax]
        exact ⟨fun h => absurd h hopened, fun _ h => .inl h⟩

omit [DecidableEq M] in
theorem closeCircuit_sends (s : Interceptor M) : Sends s (closeCircuit s) := by
  unfold closeCircuit
  by_cases hclosed : s.circuitState = .closed
  · rw [if_pos hclosed]
    exact .of_same (fun _ h => h) rfl
  · rw [if_neg hclosed]
    refine ⟨fun h => (by cases h), fun _ h => .inl ?_⟩
    exact (mem_cons.mp h).resolve_left fun h => (by cases h)

omit [DecidableEq M] in
theorem fire_sends (cfg : Config M) (s : Interceptor M) (timer : Timer M) : Sends s (fire cfg s timer) := by
  unfold fire
  cases timer.task with
  | retryMessage actor message =>
    dsimp only
    unfold retryMessage
    by_cases hsystem : s.actorSystem = false
    · rw [if_pos hsystem]
      exact .after (fun _ h => h) rfl (recordFailure_messages s)
    · rw [if_neg hsystem]
      by_cases hopened : s.circuitState = .opened
      · rw [if_pos hopened]
        exact .of_same (fun _ h => h) rfl
      · rw [if_neg hopened]
        exact ⟨fun h => absurd h hopened, fun _ h => .inl h⟩
  | halfOpenCircuit =>
    refine ⟨fun h => (by cases h), fun _ h => .inl ?_⟩
    exact (mem_cons.mp h).resolve_left fun h => (by cases h)

theorem step_sends {a : Action M} (h : step cfg s a = some t) : Sends s t := by
  cases a with
  | onError error message actor delay =>
    cases h
    exact onError_sends s error message actor delay
  | callbackReturns w =>
    cases w with
    | onRetry actor message delay =>
      obtain ⟨s', hsettle, rfl⟩ := map_eq_some_iff.mp h
      exact .of_same (settle_waiting hsettle).1 (settle_waiting hsettle).2
    | onMaxRetriesExceeded message =>
      obtain ⟨s', hsettle, rfl⟩ := map_eq_some_iff.mp h
      exact .after (settle_waiting hsettle).1 (settle_waiting hsettle).2 (recordFailure_messages s')
    | lookup actor message => cases h
    | send message => cases h
  | callbackThrows w =>
    cases w with
    | onRetry actor message delay | onMaxRetriesExceeded message =>
      exact .of_same (settle_waiting h).1 (settle_waiting h).2
    | lookup actor message => cases h
    | send message => cases h
  | lookupFinds actor message =>
    obtain ⟨s', hsettle, rfl⟩ := map_eq_some_iff.mp h
    obtain ⟨hmem, rfl⟩ := settle_eq_some hsettle
    constructor
    · intro _ actor' message' hwaiting
      exact mem_of_mem_erase ((mem_cons.mp hwaiting).resolve_left fun h => (by cases h))
    · intro message' hsent
      obtain heq | hsent := mem_cons.mp hsent
      · obtain ⟨rfl, hopened⟩ := Occurrence.sent.inj heq
        exact .inr ⟨hopened.symm, actor, hmem⟩
      · exact .inl hsent
  | lookupMisses actor message callbackThrows =>
    obtain ⟨s', hsettle, rfl⟩ := map_eq_some_iff.mp h
    exact .after (settle_waiting hsettle).1 (settle_waiting hsettle).2
      (targetMissing_messages s' callbackThrows)
  | lookupRejects actor message | sendRejects message =>
    obtain ⟨s', hsettle, rfl⟩ := map_eq_some_iff.mp h
    exact .after (settle_waiting hsettle).1 (settle_waiting hsettle).2 (recordFailure_messages s')
  | sendResolves message => exact .of_same (settle_waiting h).1 (settle_waiting h).2
  | fires timer =>
    simp only [step] at h
    by_cases hfires : timer ∈ s.timers ∧ timer.due ≤ s.now
    · rw [if_pos hfires] at h
      cases h
      have hsends := fire_sends cfg { s with timers := s.timers.erase timer } timer
      exact ⟨hsends.lookups, hsends.sent⟩
    · rw [if_neg hfires] at h
      cases h
  | passes duration | setActorSystem | destroy =>
    cases h
    exact .of_same (fun _ h => h) rfl
  | recordSuccess message =>
    cases h
    unfold recordSuccess
    dsimp only
    split
    · have hsends := closeCircuit_sends (setMetadata s message none)
      exact ⟨hsends.lookups, hsends.sent⟩
    · exact .of_same (fun _ h => h) rfl
  | resetCircuit =>
    cases h
    exact closeCircuit_sends s

theorem reach_apart (h : Reach cfg OpensApart s) : NothingSentOpen s.log ∧
    (s.circuitState = .opened → ∀ actor message, .lookup actor message ∉ s.waiting) := by
  induction h with
  | new => exact ⟨fun _ => not_mem_nil, fun h => (by cases h)⟩
  | @step s t a _ hstep hmeets ih =>
    obtain ⟨hnothing, hlookups⟩ := ih
    have hsends := step_sends hstep
    constructor
    · intro message hsent
      obtain hsent | ⟨hopened, actor, hlookup⟩ := hsends.sent message hsent
      · exact hnothing message hsent
      · exact hlookups hopened actor message hlookup
    · intro hopened actor message hlookup
      have hbefore := hsends.lookups hopened actor message hlookup
      by_cases hwas : s.circuitState = .opened
      · exact hlookups hwas actor message hbefore
      · exact hmeets hwas hopened actor message hbefore

end Opened

section Streaks

variable {M : Type} [DecidableEq M] {cfg : Config M} {s t s₀ : Interceptor M} {message : M}

def attempts (message : M) (s : Interceptor M) : Nat := (s.retryMetadata message).getD 0

structure SameCounts (message : M) (s t : Interceptor M) : Prop where
  attempts : attempts message t = attempts message s
  underWay : underWay message t = underWay message s
  sentTimes : sentTimes message t = sentTimes message s
  exceededTimes : exceededTimes message t = exceededTimes message s

theorem SameCounts.trans {r : Interceptor M} (h : SameCounts message r s)
    (h' : SameCounts message s t) : SameCounts message r t :=
  ⟨h'.attempts.trans h.attempts, h'.underWay.trans h.underWay, h'.sentTimes.trans h.sentTimes,
    h'.exceededTimes.trans h.exceededTimes⟩

theorem resends_of_retry {timers : List (Timer M)} : timers.countP (Timer.resends message) =
    (timers.filter fun timer => !timer.halfOpens).countP (Timer.resends message) := by
  rw [countP_filter]
  refine countP_congr fun timer _ => ?_
  unfold Timer.resends Timer.halfOpens
  cases timer.task <;> simp

theorem SameMessages.counts (h : SameMessages s t) : SameCounts message s t := by
  obtain ⟨news, hnews, hlog⟩ := h.log
  constructor
  · rw [attempts, h.retryMetadata, ← attempts]
  · rw [underWay, h.waiting, resends_of_retry, h.timers, ← resends_of_retry, ← underWay]
  · rw [sentTimes, hlog, countP_append, ← sentTimes, Nat.add_eq_right, countP_eq_zero]
    intro o ho
    cases o with
    | sent m circuit => exact absurd trivial (hnews _ ho)
    | _ => exact Bool.false_ne_true
  · rw [exceededTimes, hlog, count_append, ← exceededTimes, Nat.add_eq_right]
    exact count_eq_zero.mpr fun hmem => hnews _ hmem trivial

theorem settle_counts (message : M) {w : Waiting M} (h : settle s w = some t) :
    attempts message t = attempts message s ∧
      underWay message t + (w.resends message).toNat = underWay message s ∧
      sentTimes message t = sentTimes message s ∧
      exceededTimes message t = exceededTimes message s := by
  obtain ⟨hmem, rfl⟩ := settle_eq_some h
  refine ⟨rfl, ?_, rfl, rfl⟩
  have hcount := (perm_cons_erase hmem).countP_eq (Waiting.resends message)
  rw [countP_cons] at hcount
  unfold underWay
  cases hw : w.resends message with
  | false =>
    rw [hw] at hcount
    simpa using hcount.symm
  | true =>
    rw [hw] at hcount
    simp only [if_true, Bool.toNat_true] at hcount ⊢
    omega

theorem settle_same {w : Waiting M} (h : settle s w = some t) (hw : w.resends message = false) :
    SameCounts message s t := by
  obtain ⟨hattempts, hunder, hsent, hexceeded⟩ := settle_counts message h
  rw [hw] at hunder
  exact ⟨hattempts, hunder, hsent, hexceeded⟩

/-- The steps of a run in which a message keeps failing: nothing happens to the message, a delivery
of it fails, or a re-send of it is delivered. -/
inductive Accounts (cfg : Config M) (message : M) (deliveries : Nat) (s t : Interceptor M) :
    Nat → Prop
  | same (h : SameCounts message s t) : Accounts cfg message deliveries s t deliveries
  | exceeds (hdeliveries : 0 < deliveries) (hmax : cfg.maxRetries ≤ attempts message s + 1)
      (hunder : underWay message t = underWay message s)
      (hsent : sentTimes message t = sentTimes message s)
      (hexceeded : exceededTimes message t = exceededTimes message s + 1) :
      Accounts cfg message deliveries s t (deliveries - 1)
  | retries (hdeliveries : 0 < deliveries) (hmax : attempts message s + 1 < cfg.maxRetries)
      (hattempts : attempts message t = attempts message s + 1)
      (hunder : underWay message t = underWay message s + 1)
      (hsent : sentTimes message t = sentTimes message s)
      (hexceeded : exceededTimes message t = exceededTimes message s) :
      Accounts cfg message deliveries s t (deliveries - 1)
  | resent (hattempts : attempts message t = attempts message s)
      (hunder : underWay message s = underWay message t + 1)
      (hsent : sentTimes message t = sentTimes message s + 1)
      (hexceeded : exceededTimes message t = exceededTimes message s) :
      Accounts cfg message deliveries s t (deliveries + 1)

variable {deliveries : Nat}

theorem onError_accounts (hclosed : s.circuitState = .closed) (error : Thrown)
    (m : M) (actor : String) (delay : Nat)
    (hkeeps : m = message → 0 < deliveries ∧ retryable cfg error message = true) :
    Accounts cfg message deliveries s (onError cfg s error m actor delay)
      (if m = message then deliveries - 1 else deliveries) := by
  have hopened : s.circuitState ≠ .opened := by
    rw [hclosed]
    decide
  unfold onError
  rw [if_neg hopened]
  by_cases hm : m = message
  · subst hm
    obtain ⟨hdeliveries, hretry⟩ := hkeeps rfl
    rw [if_pos rfl, if_neg (by rw [hretry]; decide)]
    by_cases hmax : cfg.maxRetries ≤ (s.retryMetadata m).getD 0 + 1
    · simp only [if_pos hmax]
      refine .exceeds hdeliveries hmax ?_ ?_ ?_
      · simp [underWay, setMetadata, Waiting.resends]
      · simp [sentTimes]
      · simp [exceededTimes]
    · simp only [if_neg hmax]
      refine .retries hdeliveries (Nat.lt_of_not_le hmax) ?_ ?_ rfl rfl
      · simp [attempts, setMetadata]
      · simp [underWay, setMetadata, Waiting.resends]
        omega
  · rw [if_neg hm]
    by_cases hretry : retryable cfg error m = false
    · rw [if_pos hretry]
      exact .same ⟨rfl, rfl, rfl, rfl⟩
    · rw [if_neg hretry]
      by_cases hmax : cfg.maxRetries ≤ (s.retryMetadata m).getD 0 + 1
      · simp only [if_pos hmax]
        refine .same ⟨?_, ?_, ?_, ?_⟩
        · simp [attempts, setMetadata, Ne.symm hm]
        · simp [underWay, setMetadata, Waiting.resends]
        · simp [sentTimes]
        · simp [exceededTimes, hm]
      · simp only [if_neg hmax]
        refine .same ⟨?_, ?_, rfl, rfl⟩
        · simp [attempts, setMetadata, Ne.symm hm]
        · simp [underWay, setMetadata, Waiting.resends, hm]

theorem setTimeout_counts (s : Interceptor M) (actor : String) (m : M) (delay : Nat) :
    underWay message (setTimeout s (.retryMessage actor m) delay) =
      underWay message s + (decide (m = message)).toNat := by
  unfold underWay setTimeout
  rw [countP_append, ← Nat.add_assoc]
  by_cases hm : m = message <;> simp [Timer.resends, hm]

theorem erase_counts (message : M) {timer : Timer M} (hmem : timer ∈ s.timers) :
    underWay message { s with timers := s.timers.erase timer } + (timer.resends message).toNat =
      underWay message s := by
  have hcount := (perm_cons_erase hmem).countP_eq (Timer.resends message)
  rw [countP_cons] at hcount
  unfold underWay
  cases htimer : timer.resends message with
  | false =>
    rw [htimer] at hcount
    simpa using hcount.symm
  | true =>
    rw [htimer] at hcount
    simp only [if_true, Bool.toNat_true] at hcount ⊢
    omega

theorem fire_counts {timer : Timer M} (hclosed : s.circuitState = .closed) (hmem : timer ∈ s.timers)
    (hsystem : timer.resends message = true → s.actorSystem = true) :
    SameCounts message s (fire cfg { s with timers := s.timers.erase timer } timer) := by
  have herase := erase_counts message hmem
  unfold fire
  cases htask : timer.task with
  | retryMessage actor m =>
    have hresends : timer.resends message = decide (m = message) := by
      rw [Timer.resends, htask]
    rw [hresends] at herase
    dsimp only
    unfold retryMessage
    by_cases hattached : s.actorSystem = false
    · rw [if_pos hattached]
      have hm : ¬ m = message := by
        intro hm
        rw [hsystem (hresends.trans (decide_eq_true hm))] at hattached
        cases hattached
      rw [decide_eq_false hm] at herase
      have herased : SameCounts message s { s with timers := s.timers.erase timer } :=
        ⟨rfl, herase, rfl, rfl⟩
      exact herased.trans (recordFailure_messages _).counts
    · rw [if_neg hattached, if_neg (by rw [hclosed]; decide)]
      refine ⟨rfl, ?_, rfl, rfl⟩
      rw [← herase]
      unfold underWay
      rw [countP_cons]
      by_cases hm : m = message <;> simp [Waiting.resends, hm]
      omega
  | halfOpenCircuit =>
    have hresends : timer.resends message = false := by
      rw [Timer.resends, htask]
    rw [hresends] at herase
    refine ⟨rfl, herase, ?_, ?_⟩
    · simp [halfOpenCircuit, sentTimes]
    · simp [halfOpenCircuit, exceededTimes]

theorem step_accounts {a : Action M} (hclosed : s.circuitState = .closed)
    (hkeeps : Keeps cfg message deliveries s a) (h : step cfg s a = some t) :
    Accounts cfg message deliveries s t (deliveriesAfter message deliveries a) := by
  cases a with
  | onError error m actor delay =>
    cases h
    exact onError_accounts hclosed error m actor delay hkeeps
  | callbackReturns w =>
    cases w with
    | onRetry actor m delay =>
      obtain ⟨s', hsettle, rfl⟩ := map_eq_some_iff.mp h
      obtain ⟨hattempts, hunder, hsent, hexceeded⟩ := settle_counts message hsettle
      exact .same ⟨hattempts, (setTimeout_counts s' actor m delay).trans hunder, hsent, hexceeded⟩
    | onMaxRetriesExceeded m =>
      obtain ⟨s', hsettle, rfl⟩ := map_eq_some_iff.mp h
      exact .same ((settle_same hsettle rfl).trans (recordFailure_messages s').counts)
    | lookup actor m => cases h
    | send m => cases h
  | callbackThrows w =>
    cases w with
    | onRetry actor m delay => exact .same (settle_same h hkeeps)
    | onMaxRetriesExceeded m => exact .same (settle_same h hkeeps)
    | lookup actor m => cases h
    | send m => cases h
  | lookupFinds actor m =>
    obtain ⟨s', hsettle, rfl⟩ := map_eq_some_iff.mp h
    obtain ⟨hattempts, hunder, hsent, hexceeded⟩ := settle_counts message hsettle
    change Accounts _ _ _ _ _ (if m = message then deliveries + 1 else deliveries)
    by_cases hm : m = message
    · rw [if_pos hm]
      refine .resent hattempts ?_ ?_ ?_
      · rw [← hunder]
        simp [underWay, Waiting.resends, hm]
      · rw [← hsent]
        simp [sentTimes, hm]
      · rw [← hexceeded]
        simp [exceededTimes]
    · rw [if_neg hm]
      refine .same ⟨hattempts, ?_, ?_, ?_⟩
      · rw [← hunder]
        simp [underWay, Waiting.resends, hm]
      · rw [← hsent]
        simp [sentTimes, hm]
      · rw [← hexceeded]
        simp [exceededTimes]
  | lookupMisses actor m callbackThrows =>
    obtain ⟨s', hsettle, rfl⟩ := map_eq_some_iff.mp h
    exact .same ((settle_same hsettle (decide_eq_false hkeeps)).trans
      (targetMissing_messages s' callbackThrows).counts)
  | lookupRejects actor m =>
    obtain ⟨s', hsettle, rfl⟩ := map_eq_some_iff.mp h
    exact .same ((settle_same hsettle (decide_eq_false hkeeps)).trans
      (recordFailure_messages s').counts)
  | sendResolves m => exact .same (settle_same h rfl)
  | sendRejects m =>
    obtain ⟨s', hsettle, rfl⟩ := map_eq_some_iff.mp h
    exact .same ((settle_same hsettle rfl).trans (recordFailure_messages s').counts)
  | fires timer =>
    simp only [step] at h
    by_cases hfires : timer ∈ s.timers ∧ timer.due ≤ s.now
    · rw [if_pos hfires] at h
      cases h
      exact .same (fire_counts hclosed hfires.1 hkeeps)
    · rw [if_neg hfires] at h
      cases h
  | passes duration | setActorSystem =>
    cases h
    exact .same ⟨rfl, rfl, rfl, rfl⟩
  | recordSuccess m =>
    cases h
    have hhalf : (setMetadata s m none).circuitState ≠ .halfOpen := by
      change s.circuitState ≠ .halfOpen
      rw [hclosed]
      decide
    unfold recordSuccess
    simp only [if_neg hhalf]
    refine .same ⟨?_, rfl, rfl, rfl⟩
    simp [attempts, setMetadata, Ne.symm hkeeps]
  | resetCircuit =>
    cases h
    unfold closeCircuit
    rw [if_pos hclosed]
    exact .same ⟨rfl, rfl, rfl, rfl⟩
  | destroy => cases hkeeps

/-- A message that keeps failing is in one place, and its attempts are those of its deliveries. -/
structure Streak (cfg : Config M) (message : M) (s₀ : Interceptor M) (deliveries : Nat)
    (s : Interceptor M) : Prop where
  retrying : exceededTimes message s = exceededTimes message s₀ →
    deliveries + underWay message s = 1 ∧
      attempts message s + sentTimes message s₀ = sentTimes message s + underWay message s ∧
      (attempts message s = 0 ∨ attempts message s < cfg.maxRetries)
  exceeded : exceededTimes message s ≠ exceededTimes message s₀ →
    exceededTimes message s = exceededTimes message s₀ + 1 ∧
      deliveries = 0 ∧ underWay message s = 0 ∧
      sentTimes message s + 1 = sentTimes message s₀ + max cfg.maxRetries 1

theorem failing_streak (h : Failing cfg message s₀ deliveries s) :
    Streak cfg message s₀ deliveries s := by
  induction h with
  | start hfirst hidle =>
    refine ⟨fun _ => ⟨by rw [hidle], ?_, .inl ?_⟩, fun h => absurd rfl h⟩
    · rw [hidle, attempts, hfirst]
      exact Nat.zero_add _
    · rw [attempts, hfirst]
      rfl
  | @step deliveries s t a _ hclosed hkeeps hstep ih =>
    have haccounts := step_accounts hclosed hkeeps hstep
    generalize deliveriesAfter message deliveries a = deliveries' at haccounts
    obtain ⟨hretrying, hexceeded⟩ := ih
    by_cases hsame : exceededTimes message s = exceededTimes message s₀
    · obtain ⟨hone, hattempts, hbound⟩ := hretrying hsame
      cases haccounts with
      | same h =>
        obtain ⟨h₁, h₂, h₃, h₄⟩ := h
        constructor
        · intro _
          omega
        · intro hne
          omega
      | exceeds hdeliveries hmax hunder hsent hexceeded' =>
        constructor
        · intro heq
          omega
        · intro _
          omega
      | retries hdeliveries hmax hattempts' hunder hsent hexceeded'
      | resent hattempts' hunder hsent hexceeded' =>
        constructor
        · intro _
          omega
        · intro hne
          omega
    · obtain ⟨hone, hdeliveries, hunder, hsent⟩ := hexceeded hsame
      cases haccounts with
      | same h =>
        obtain ⟨h₁, h₂, h₃, h₄⟩ := h
        constructor
        · intro heq
          omega
        · intro _
          omega
      | exceeds hdeliveries' hmax hunder' hsent' hexceeded' => omega
      | retries hdeliveries' hmax hattempts' hunder' hsent' hexceeded' => omega
      | resent hattempts' hunder' hsent' hexceeded' => omega

end Streaks

section Claims

variable {M : Type} [DecidableEq M]

/-- The circuit opens and half-opens as it should in every run; nothing is sent while it is open, if
it does not open during lookups; and a message that keeps failing is re-sent the maximum number of
times exactly if that number is zero. -/
theorem retries_iff (cfg : Config M) (htimeout : cfg.circuitResetTimeout ≤ 2147483647) :
    (∀ s, Reach cfg (fun _ _ => True) s → Orderly cfg s.log) ∧
    (∀ s, Reach cfg OpensApart s → NothingSentOpen s.log) ∧
    ∀ message s₀ deliveries s, Failing cfg message s₀ deliveries s →
      exceededTimes message s ≤ exceededTimes message s₀ + 1 ∧
      (exceededTimes message s = exceededTimes message s₀ →
        deliveries + underWay message s = 1) ∧
      (exceededTimes message s = exceededTimes message s₀ + 1 →
        (sentTimes message s = sentTimes message s₀ + cfg.maxRetries ↔ cfg.maxRetries = 0)) := by
  refine ⟨fun s h => (reach_kept htimeout h).orderly, fun s h => (reach_apart h).1, ?_⟩
  intro message s₀ deliveries s h
  obtain ⟨hretrying, hexceeded⟩ := failing_streak h
  refine ⟨?_, fun heq => (hretrying heq).1, fun heq => ?_⟩
  · by_cases heq : exceededTimes message s = exceededTimes message s₀
    · exact heq.le.trans (Nat.le_succ _)
    · exact (hexceeded heq).1.le
  · obtain ⟨-, -, -, hsent⟩ := hexceeded (by omega)
    omega

def twoRetries : Config Bool := ⟨2, 1, 60000, fun _ => true, fun _ => true⟩

def ready : Interceptor Bool := { Interceptor.new Bool with actorSystem := true }

def offline : Thrown := ⟨"Error", "network"⟩

def retryOf (message : Bool) (timer : Nat) : List (Action Bool) :=
  [.onError offline message "a" 0, .callbackReturns (.onRetry "a" message 0),
    .fires ⟨timer, 0, .retryMessage "a" message⟩]

def after (s : Interceptor Bool) (actions : List (Action Bool)) : Interceptor Bool :=
  actions.foldl (fun s a => (step twoRetries s a).getD s) s

def exhausted : Interceptor Bool :=
  after ready (retryOf true 0 ++ [.lookupFinds "a" true, .onError offline true "a" 0])

theorem failing_exhausted : Failing twoRetries true ready 0 exhausted := by
  have hstart : Failing twoRetries true ready 1 ready := .start rfl rfl
  have herror := hstart.step (a := .onError offline true "a" 0) rfl (fun _ => ⟨by decide, rfl⟩) rfl
  have hcallback := herror.step (a := .callbackReturns (.onRetry "a" true 0)) rfl trivial rfl
  have hfires := hcallback.step (a := .fires ⟨0, 0, .retryMessage "a" true⟩) rfl (fun _ => rfl) rfl
  have hfinds := hfires.step (a := .lookupFinds "a" true) rfl trivial rfl
  exact hfinds.step (a := .onError offline true "a" 0) rfl (fun _ => ⟨by decide, rfl⟩) rfl

theorem retries_iff_exhausted : exceededTimes true exhausted ≤ exceededTimes true ready + 1 ∧
    (sentTimes true exhausted = sentTimes true ready + 2 ↔ twoRetries.maxRetries = 0) :=
  have h := (retries_iff twoRetries (by decide)).2.2 true ready 0 exhausted failing_exhausted
  ⟨h.1, h.2.2 rfl⟩

theorem reach_of_runs {cfg : Config M} {s t : Interceptor M} (actions : List (Action M))
    (hs : Reach cfg (fun _ _ => True) s) (h : actions.foldlM (step cfg) s = some t) :
    Reach cfg (fun _ _ => True) t := by
  induction actions generalizing s with
  | nil =>
    cases h
    exact hs
  | cons a actions ih =>
    rw [foldlM_cons] at h
    obtain ⟨r, hr, hrest⟩ := bind_eq_some_iff.mp h
    exact ih (hs.step hr trivial) hrest

/-- A message that keeps failing is re-sent once, where two retries are allowed; and a message is
re-sent while the circuit is open, which opened during its lookup. -/
theorem retries_counterexample :
    (Failing twoRetries true ready 0 exhausted ∧ exceededTimes true exhausted = 1 ∧
      sentTimes true exhausted = 1) ∧
    ∃ s, Reach twoRetries (fun _ _ => True) s ∧ .sent true .opened ∈ s.log := by
  exact ⟨⟨failing_exhausted, rfl, rfl⟩, _,
    reach_of_runs (.setActorSystem :: retryOf true 0 ++ retryOf false 1 ++
      [.lookupRejects "a" false, .lookupFinds "a" true]) .new rfl, mem_cons_self⟩

end Claims

end ActorWeb.Retries
