import ActorWeb.ActorAddress
import Mathlib.Algebra.Order.Ring.Rat

namespace ActorWeb

inductive ActorSupervisionStrategy
  | restart
  | resume
  | stop
  | escalate

/-- A policy that `spawn` accepts: a whole number of restarts and a positive window. -/
structure ActorSupervisionPolicy where
  strategy : ActorSupervisionStrategy
  maxRestarts : Option Nat
  withinMs : Option { ms : Rat // 0 < ms }

namespace Supervision

def MAX_RESTART_ATTEMPTS : Nat := 3

def RESTART_WINDOW_MS : Rat := 30000

def RESTART_BACKOFF_MS : Nat := 1000

structure DecisionInput where
  policy : Option ActorSupervisionPolicy
  (restartCount lastRestartTimeMs nowMs : Nat)

inductive Decision
  | restart (restartCount maxRestarts : Nat)
  | stopPermanent (restartCount maxRestarts : Nat)
  | stop
  | escalate
  | resume

def maxRestartsOf (policy : Option ActorSupervisionPolicy) : Nat :=
  (policy.bind ActorSupervisionPolicy.maxRestarts).getD MAX_RESTART_ATTEMPTS

def withinMsOf (policy : Option ActorSupervisionPolicy) : Rat :=
  ((policy.bind ActorSupervisionPolicy.withinMs).map Subtype.val).getD RESTART_WINDOW_MS

variable (input : DecisionInput)

def windowExpired : Bool :=
  0 < input.restartCount &&
    withinMsOf input.policy < (input.nowMs : Rat) - (input.lastRestartTimeMs : Rat)

def effectiveCount : Nat :=
  if windowExpired input then 0 else input.restartCount

def resolveSupervisionDecision : Decision :=
  match (input.policy.map ActorSupervisionPolicy.strategy).getD .restart with
  | .stop => .stop
  | .escalate => .escalate
  | .resume => .resume
  | .restart =>
    if maxRestartsOf input.policy ≤ effectiveCount input then
      .stopPermanent (effectiveCount input) (maxRestartsOf input.policy)
    else .restart (effectiveCount input) (maxRestartsOf input.policy)

inductive GroupStrategy
  | oneForOne
  | oneForAll
  | restForOne
  | escalate
deriving DecidableEq

structure SupervisorGroupConfig where
  key : List Char
  strategy : GroupStrategy
  children : List ActorAddress
deriving DecidableEq

inductive GiveUpReason
  | maxRestartsExceeded
  | supervisorEscalated

inductive TreeDecision
  | passThrough
  | restartGroup (stopOrder respawnOrder : List ActorAddress)
  | giveUpGroup (stopOrder : List ActorAddress) (reason : GiveUpReason)

def respawnOrder (group : SupervisorGroupConfig) (failedChildPath : ActorAddress) :
    List ActorAddress :=
  if group.strategy = .oneForAll then group.children
  else group.children.drop (group.children.idxOf failedChildPath)

def resolveTreeSupervisionDecision (childDecision : Decision)
    (group : Option SupervisorGroupConfig) (failedChildPath : ActorAddress) : TreeDecision :=
  match group with
  | none => .passThrough
  | some group =>
    if failedChildPath ∉ group.children then .passThrough
    else
      match childDecision with
      | .stop => .passThrough
      | .resume => .passThrough
      | childDecision =>
        match group.strategy, childDecision with
        | .escalate, _ => .giveUpGroup group.children.reverse .supervisorEscalated
        | .oneForOne, _ => .passThrough
        | _, .stopPermanent _ _ => .giveUpGroup group.children.reverse .maxRestartsExceeded
        | _, _ =>
          .restartGroup (respawnOrder group failedChildPath).reverse
            (respawnOrder group failedChildPath)

def backoffDelay (restartCount : Nat) : Nat := RESTART_BACKOFF_MS * 2 ^ restartCount

theorem resolve_restart {policy : ActorSupervisionPolicy} (h : policy.strategy = .restart)
    {count last now : Nat} : resolveSupervisionDecision ⟨some policy, count, last, now⟩ =
      if maxRestartsOf (some policy) ≤ effectiveCount ⟨some policy, count, last, now⟩ then
        .stopPermanent (effectiveCount ⟨some policy, count, last, now⟩)
          (maxRestartsOf (some policy))
      else .restart (effectiveCount ⟨some policy, count, last, now⟩)
        (maxRestartsOf (some policy)) := by
  simp only [resolveSupervisionDecision, Option.map_some, Option.getD_some, h]

end Supervision

end ActorWeb
