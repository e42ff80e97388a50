import ActorWeb.Supervision
import ActorWeb.Transition
import Mathlib.Tactic.NormNum

namespace ActorWeb.RestartBudget

open Supervision Transition

inductive Phase
  | running
  | waiting (count startedAt due : Nat)
  | stopped
deriving DecidableEq

inductive StopReason
  | maxRestartsExceeded
  | supervisionStop
  | escalated
  | user
deriving DecidableEq

inductive Entry
  | succeeded
  | restarted
  | resumed
  | stopped (reason : StopReason)
deriving DecidableEq

/-- An ungrouped actor as its supervision sees it: the restart bookkeeping, the
restart that waits out its backoff, and what happened so far. -/
structure Supervised where
  policy : ActorSupervisionPolicy
  (now restartCount lastRestartTime : Nat)
  phase : Phase
  log : List Entry

def start (policy : ActorSupervisionPolicy) (now : Nat) : Supervised :=
  { policy, now, restartCount := 0, lastRestartTime := 0, phase := .running, log := [] }

inductive Action
  | succeed
  | fail
  | wake
  | stop
  | spawn
  | tick (ms : Nat)

namespace Supervised

def decision (s : Supervised) : Decision :=
  resolveSupervisionDecision ⟨some s.policy, s.restartCount, s.lastRestartTime, s.now⟩

def stopActor (s : Supervised) (reason : StopReason) : Supervised :=
  { s with
    restartCount := 0, lastRestartTime := 0, phase := .stopped
    log := s.log ++ [.stopped reason] }

def applySupervisionStrategy (s : Supervised) : Supervised :=
  match s.decision with
  | .restart count _ =>
    { s with restartCount := count, phase := .waiting count s.now (s.now + backoffDelay count) }
  | .stopPermanent _ _ => s.stopActor .maxRestartsExceeded
  | .stop => s.stopActor .supervisionStop
  | .escalate => s.stopActor .escalated
  | .resume => { s with log := s.log ++ [.resumed] }

/-- `restartActorWithLimits` after its wait: the bookkeeping that the stop clears is
restored with the time at which the failure was handled. -/
def respawn (s : Supervised) (count startedAt : Nat) : Supervised :=
  { s with
    restartCount := count + 1, lastRestartTime := startedAt, phase := .running
    log := s.log ++ [.restarted] }

def restarts (s : Supervised) : Nat := s.log.count .restarted

end Supervised

def step (s : Supervised) : Action → Option Supervised
  | .succeed => if s.phase = .running then some { s with log := s.log ++ [.succeeded] } else none
  | .fail => if s.phase = .running then some s.applySupervisionStrategy else none
  | .wake =>
    match s.phase with
    | .waiting count startedAt due => if due ≤ s.now then some (s.respawn count startedAt) else none
    | _ => none
  | .stop => if s.phase = .running then some (s.stopActor .user) else none
  | .spawn => if s.phase = .stopped then some { s with phase := .running } else none
  | .tick ms => some { s with now := s.now + ms }

/-- A failure comes within the window of the failure behind the last restart, and
no one spawns the actor anew. -/
def Prompt (s : Supervised) : Action → Prop
  | .fail => 0 < s.restartCount →
      (s.now : Rat) - (s.lastRestartTime : Rat) ≤ withinMsOf (some s.policy)
  | .spawn => False
  | _ => True

structure Within (policy : ActorSupervisionPolicy) (s : Supervised) : Prop where
  policy_eq : s.policy = policy
  running : s.phase = .running → s.restartCount ≤ maxRestartsOf (some policy)
  waiting : ∀ count startedAt due, s.phase = .waiting count startedAt due →
    s.restartCount = count ∧ count < maxRestartsOf (some policy)
  stopped : s.phase = .stopped → s.restartCount = 0

/-- The restarts after the first `base` are within what the bookkeeping counts and
within the budget. -/
structure Counted (policy : ActorSupervisionPolicy) (base : Nat) (s : Supervised) : Prop where
  counted : s.phase ≠ .stopped → s.restarts ≤ base + s.restartCount
  bounded : s.restarts ≤ base + maxRestartsOf (some policy)

variable {policy : ActorSupervisionPolicy} {base : Nat} {s t : Supervised}

theorem start_within (policy : ActorSupervisionPolicy) (now : Nat) :
    Within policy (start policy now) where
  policy_eq := rfl
  running := fun _ => Nat.zero_le _
  waiting := fun _ _ _ h => by cases h
  stopped := fun h => by cases h

theorem stopActor_within (h : Within policy s) (reason : StopReason) :
    Within policy (s.stopActor reason) where
  policy_eq := h.policy_eq
  running := fun he => by cases he
  waiting := fun _ _ _ he => by cases he
  stopped := fun _ => rfl

theorem applySupervisionStrategy_eq (hstrategy : policy.strategy = .restart)
    (h : Within policy s) {count : Nat}
    (hcount : effectiveCount ⟨some policy, s.restartCount, s.lastRestartTime, s.now⟩ = count) :
    s.applySupervisionStrategy =
      if maxRestartsOf (some policy) ≤ count then s.stopActor .maxRestartsExceeded
      else { s with
        restartCount := count, phase := .waiting count s.now (s.now + backoffDelay count) } := by
  unfold Supervised.applySupervisionStrategy Supervised.decision
  rw [h.policy_eq, resolve_restart hstrategy, hcount]
  by_cases hmax : maxRestartsOf (some policy) ≤ count
  · rw [if_pos hmax, if_pos hmax]
  · rw [if_neg hmax, if_neg hmax]

theorem within_step (hstrategy : policy.strategy = .restart) {a : Action} (h : Within policy s)
    (ht : step s a = some t) : Within policy t := by
  cases a with
  | succeed =>
    simp only [step] at ht
    split at ht
    case isFalse => cases ht
    case isTrue =>
      cases ht
      exact ⟨h.policy_eq, h.running, h.waiting, h.stopped⟩
  | fail =>
    simp only [step] at ht
    split at ht
    case isFalse => cases ht
    case isTrue =>
      cases ht
      rw [applySupervisionStrategy_eq hstrategy h rfl]
      split
      case isTrue => exact stopActor_within h _
      case isFalse hmax =>
        refine ⟨h.policy_eq, fun he => (by cases he), fun count _ _ he => ?_,
          fun he => (by cases he)⟩
        obtain ⟨rfl, -, -⟩ := Phase.waiting.inj he
        exact ⟨rfl, Nat.lt_of_not_le hmax⟩
  | wake =>
    simp only [step] at ht
    split at ht
    case h_1 count startedAt due hphase =>
      split at ht
      case isFalse => cases ht
      case isTrue =>
        cases ht
        exact ⟨h.policy_eq, fun _ => (h.waiting count startedAt due hphase).2,
          fun _ _ _ he => (by cases he), fun he => (by cases he)⟩
    case h_2 => cases ht
  | stop =>
    simp only [step] at ht
    split at ht
    case isFalse => cases ht
    case isTrue =>
      cases ht
      exact stopActor_within h _
  | spawn =>
    simp only [step] at ht
    split at ht
    case isFalse => cases ht
    case isTrue hstopped =>
      cases ht
      exact ⟨h.policy_eq, fun _ => le_of_eq_of_le (h.stopped hstopped) (Nat.zero_le _),
        fun _ _ _ he => (by cases he), fun he => (by cases he)⟩
  | tick ms =>
    cases ht
    exact ⟨h.policy_eq, h.running, h.waiting, h.stopped⟩

theorem effectiveCount_of_prompt (h : Within policy s) (hp : Prompt s .fail) :
    effectiveCount ⟨some policy, s.restartCount, s.lastRestartTime, s.now⟩ = s.restartCount := by
  rw [effectiveCount, if_neg]
  simp only [windowExpired, Bool.and_eq_true, decide_eq_true_eq, not_and, not_lt]
  exact h.policy_eq ▸ hp

theorem stopActor_counted (h : Counted policy base s) {reason : StopReason} :
    Counted policy base (s.stopActor reason) where
  counted := fun hne => absurd rfl hne
  bounded := by
    simpa [Supervised.restarts, Supervised.stopActor] using h.bounded

theorem counted_step (hstrategy : policy.strategy = .restart) {a : Action} (hw : Within policy s)
    (h : Counted policy base s) (hp : Prompt s a) (ht : step s a = some t) :
    Counted policy base t := by
  cases a with
  | succeed =>
    simp only [step] at ht
    split at ht
    case isFalse => cases ht
    case isTrue =>
      cases ht
      have hr : (s.log ++ [Entry.succeeded]).count .restarted = s.restarts := by
        simp [Supervised.restarts]
      exact ⟨fun hne => le_of_eq_of_le hr (h.counted hne), le_of_eq_of_le hr h.bounded⟩
  | fail =>
    simp only [step] at ht
    split at ht
    case isFalse => cases ht
    case isTrue hrunning =>
      cases ht
      rw [applySupervisionStrategy_eq hstrategy hw (effectiveCount_of_prompt hw hp)]
      split
      case isTrue => exact stopActor_counted h
      case isFalse => exact ⟨fun _ => h.counted (by rw [hrunning]; simp), h.bounded⟩
  | wake =>
    simp only [step] at ht
    split at ht
    case h_1 count startedAt due hphase =>
      split at ht
      case isFalse => cases ht
      case isTrue =>
        cases ht
        obtain ⟨hcount, hlt⟩ := hw.waiting count startedAt due hphase
        have hle := h.counted (by rw [hphase]; simp)
        have hr : (s.respawn count startedAt).restarts = s.restarts + 1 := by
          simp [Supervised.restarts, Supervised.respawn]
        refine ⟨fun _ => ?_, ?_⟩
        · rw [hr]
          simp only [Supervised.respawn]
          omega
        · rw [hr]
          omega
    case h_2 => cases ht
  | stop =>
    simp only [step] at ht
    split at ht
    case isFalse => cases ht
    case isTrue =>
      cases ht
      exact stopActor_counted h
  | spawn => exact hp.elim
  | tick ms =>
    cases ht
    exact ⟨h.counted, h.bounded⟩

section Runs

def once : ActorSupervisionPolicy :=
  { strategy := .restart, maxRestarts := some 1, withinMs := some ⟨500, by norm_num⟩ }

def relaxed : ActorSupervisionPolicy :=
  { strategy := .restart, maxRestarts := some 1, withinMs := some ⟨60000, by norm_num⟩ }

/-- Each failure follows its restart at once; the backoff alone outlasts the window. -/
def crashRun : List Action := [.fail, .tick 1000, .wake, .fail, .tick 1000, .wake]

def relaxedRun : List Action := [.fail, .tick 1000, .wake]

end Runs

end ActorWeb.RestartBudget
