import ActorWeb.OrderedMap

/-! The validation interceptor and the verdicts it keeps of the messages it has seen. -/

namespace ActorWeb.ValidationInterceptor

inductive FailureAction
  | filter
  | error
deriving DecidableEq

/-- A validator's verdict on a message, or the text of what it throws. -/
abbrev MessageValidator (M : Type) := M → Except String Bool

structure Interceptor (M : Type) where
  onFailure : FailureAction
  validators : OrderedMap String (MessageValidator M) := .empty
  globalValidator : Option (MessageValidator M) := none
  validationCache : M → Option Bool := fun _ => none

inductive Received (M : Type)
  | passed (message : M)
  | filtered
  | threw (error : String)

/-- What a call comes to, and the failures that were handled in it. -/
structure Answer (M : Type) where
  received : Received M
  handled : List String

inductive Verdict
  | accepted
  | rejected (reason : String)
  | threw (error : String)
deriving DecidableEq

section

variable {M : Type} (type : M → String) (s : Interceptor M) (message : M)

def runValidators : List (MessageValidator M × String) → Verdict
  | [] => .accepted
  | (validator, reason) :: rest =>
    match validator message with
    | .ok true => runValidators rest
    | .ok false => .rejected reason
    | .error error => .threw error

def verdict : Verdict :=
  runValidators message <|
    (s.validators.get (type message)).toList.map (·, "Type validation failed") ++
      s.globalValidator.toList.map (·, "Global validation failed")

variable (reason : String)

def handleValidationFailure : Received M :=
  match s.onFailure with
  | .error => .threw ("Validation failed: " ++ reason)
  | .filter => .filtered

/-- A rejection is handled inside the `try`, whose `catch` handles what that throws. -/
def rejectedInTry : Answer M :=
  match handleValidationFailure s reason with
  | .threw error => ⟨handleValidationFailure s error, [reason, error]⟩
  | received => ⟨received, [reason]⟩

theorem verdict_of_none (h : (s.validators.get (type message)).isNone && s.globalValidator.isNone) :
    verdict type s message = .accepted := by
  simp only [Bool.and_eq_true, Option.isNone_iff_eq_none] at h
  simp [verdict, h.1, h.2, runValidators]

theorem rejectedInTry_eq_iff :
    rejectedInTry s reason = ⟨handleValidationFailure s reason, [reason]⟩ ↔
      s.onFailure = .filter := by
  cases hmode : s.onFailure <;> simp [rejectedInTry, handleValidationFailure, hmode]

end

section

variable {M : Type} [DecidableEq M] (type : M → String) (s : Interceptor M) (message : M)

def cacheVerdict (valid : Bool) : Interceptor M :=
  { s with validationCache := Function.update s.validationCache message (some valid) }

def beforeReceive : Interceptor M × Answer M :=
  match s.validationCache message with
  | some valid => (s, ⟨if valid then .passed message else .filtered, []⟩)
  | none =>
    if (s.validators.get (type message)).isNone && s.globalValidator.isNone then
      (s, ⟨.passed message, []⟩)
    else
      match verdict type s message with
      | .accepted => (cacheVerdict s message true, ⟨.passed message, []⟩)
      | .rejected reason => (cacheVerdict s message false, rejectedInTry s reason)
      | .threw error => (s, ⟨handleValidationFailure s error, [error]⟩)

inductive Call (M : Type)
  | registerValidator (messageType : String) (validator : MessageValidator M)
  | registerGlobalValidator (validator : MessageValidator M)
  | unregisterValidator (messageType : String)
  | clearValidators
  | beforeReceive (message : M)

def call : Call M → Interceptor M
  | .registerValidator messageType validator =>
    { s with validators := s.validators.set messageType validator }
  | .registerGlobalValidator validator => { s with globalValidator := some validator }
  | .unregisterValidator messageType => { s with validators := s.validators.delete messageType }
  | .clearValidators => { s with validators := .empty, globalValidator := none }
  | .beforeReceive message => (beforeReceive type s message).1

def calls (onFailure : FailureAction) (cs : List (Call M)) : Interceptor M :=
  cs.foldl (call type) { onFailure }

/-- The validators that are registered, run once, and their failure handled once. -/
def uncached : Answer M :=
  match verdict type s message with
  | .accepted => ⟨.passed message, []⟩
  | .rejected reason | .threw reason => ⟨handleValidationFailure s reason, [reason]⟩

/-- No verdict is kept and no rejection has to raise, or the verdict kept is an acceptance that
still stands. -/
def Answerable : Prop :=
  match s.validationCache message with
  | some valid => valid = true ∧ verdict type s message = .accepted
  | none => s.onFailure = .error → ∀ reason, verdict type s message ≠ .rejected reason

theorem beforeReceive_eq_uncached_iff :
    (beforeReceive type s message).2 = uncached type s message ↔ Answerable type s message := by
  unfold beforeReceive uncached Answerable
  cases hcached : s.validationCache message with
  | some valid =>
    cases valid <;> cases hverdict : verdict type s message <;> simp
  | none =>
    dsimp only
    split
    case isTrue hnone => simp [verdict_of_none type s message hnone]
    case isFalse =>
      cases hverdict : verdict type s message with
      | accepted => simp
      | threw error => simp
      | rejected reason =>
        rw [rejectedInTry_eq_iff]
        cases s.onFailure <;> simp

/-- Every call of a history is answered as without the cache, exactly when each finds no verdict it
must not use and has no rejection to raise. -/
theorem history_eq_uncached_iff (onFailure : FailureAction) (cs : List (Call M)) :
    (∀ p m, p ++ [.beforeReceive m] <+: cs →
        (beforeReceive type (calls type onFailure p) m).2 = uncached type (calls type onFailure p) m) ↔
      ∀ p m, p ++ [.beforeReceive m] <+: cs → Answerable type (calls type onFailure p) m :=
  forall₃_congr fun p m _ => beforeReceive_eq_uncached_iff type (calls type onFailure p) m

end

def rejectAll : MessageValidator String := fun _ => .ok false

/-- The verdict outlives the validator that gave it. -/
theorem cleared_verdict_kept : ¬ ∀ p m, p ++ [.beforeReceive m] <+:
    [.registerGlobalValidator rejectAll, .beforeReceive "a", .clearValidators, .beforeReceive "a"] →
      (beforeReceive id (calls id .filter p) m).2 = uncached id (calls id .filter p) m := by
  intro h
  have hagrees := (beforeReceive_eq_uncached_iff _ _ _).mp (h
    [.registerGlobalValidator rejectAll, .beforeReceive "a", .clearValidators] "a"
    (List.prefix_refl _))
  exact absurd hagrees.1 (by decide)

end ActorWeb.ValidationInterceptor
