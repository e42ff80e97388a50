import ActorWeb.RestartBudget
import Mathlib.Data.List.Chain
import Mathlib.Tactic.Linarith

/-! How the restarts of one actor spread over time. -/

namespace ActorWeb.RestartWindow

open List Supervision Transition RestartBudget

/-- A failure with the time at which it was handled and what was decided. -/
structure Failure where
  time : Nat
  decision : Decision

def Failure.restarted (f : Failure) : Bool :=
  match f.decision with
  | .restart _ _ => true
  | _ => false

/-- One actor, from its spawn on, and its failures so far, the latest first. -/
structure Observed where
  actor : Supervised
  failures : List Failure

def begin (policy : ActorSupervisionPolicy) (now : Nat) : Observed := ⟨start policy now, []⟩

/-- Another spawn begins another actor. A stop during the wait for a restart clears the
bookkeeping, and the restart goes on. -/
def observe (o : Observed) (a : Action) : Option Observed :=
  match a, o.actor.phase with
  | .spawn, _ => none
  | .fail, _ =>
    (step o.actor .fail).map fun s => ⟨s, ⟨o.actor.now, o.actor.decision⟩ :: o.failures⟩
  | .stop, .waiting _ _ _ =>
    some ⟨{ o.actor.stopActor .user with phase := o.actor.phase }, o.failures⟩
  | a, _ => (step o.actor a).map fun s => ⟨s, o.failures⟩

def since (t : Rat) (fs : List Failure) : List Failure :=
  fs.filter fun f => t ≤ (f.time : Rat)

def restartsIn (t length : Rat) (fs : List Failure) : List Failure :=
  fs.filter fun f => f.restarted && decide (t ≤ (f.time : Rat)) && decide ((f.time : Rat) ≤ t + length)

/-- The last `n` failures follow each other within the window. -/
structure Chained (window : Rat) (n : Nat) (fs : List Failure) : Prop where
  length : n ≤ fs.length
  close : (fs.take n).IsChain fun f g => (f.time : Rat) - (g.time : Rat) ≤ window

section Ledger

/-- The count that the next failure finds, once a restart under way is over. -/
def ledger (s : Supervised) : Nat × Nat :=
  match s.phase with
  | .waiting count startedAt _ => (count + 1, startedAt)
  | _ => (s.restartCount, s.lastRestartTime)

/-- What the count and the time of the last restart say about the failures of an actor
that is not stopped. -/
structure Kept (policy : ActorSupervisionPolicy) (now count last : Nat) (fs : List Failure) :
    Prop where
  restarted : ∀ f ∈ fs, f.restarted = true
  bounded : count ≤ maxRestartsOf (some policy)
  head : ∀ f rest, fs = f :: rest → f.time = last
  past : ∀ f ∈ fs, f.time ≤ last
  last_le : last ≤ now
  chained : Chained (withinMsOf (some policy)) count fs
  recent : ∀ t : Rat, (last : Rat) ≤ t + withinMsOf (some policy) → (since t fs).length ≤ count

variable {policy : ActorSupervisionPolicy} {now count last c n : Nat} {fs : List Failure}
  {f : Failure} {window : Rat}

theorem Chained.mono {m : Nat} (h : Chained window n fs) (hm : m ≤ n) : Chained window m fs where
  length := hm.trans h.length
  close := by
    have htake : (fs.take n).take m = fs.take m := by rw [take_take, Nat.min_eq_left hm]
    exact htake ▸ h.close.take m

theorem Chained.cons (h : Chained window n fs)
    (hgap : ∀ g rest, fs = g :: rest → 0 < n → (f.time : Rat) - (g.time : Rat) ≤ window) :
    Chained window (n + 1) (f :: fs) where
  length := Nat.succ_le_succ h.length
  close := by
    rw [take_succ_cons]
    cases n with
    | zero => rw [take_zero]; exact isChain_singleton f
    | succ n =>
      obtain ⟨g, rest, rfl⟩ := exists_cons_of_length_pos (Nat.lt_of_lt_of_le n.succ_pos h.length)
      have hclose := h.close
      rw [take_succ_cons] at hclose ⊢
      exact isChain_cons_cons.mpr ⟨hgap g rest rfl n.succ_pos, hclose⟩

theorem effectiveCount_cases (policy : ActorSupervisionPolicy) (count last now : Nat) :
    (effectiveCount ⟨some policy, count, last, now⟩ = count ∧
        (0 < count → (now : Rat) - (last : Rat) ≤ withinMsOf (some policy))) ∨
      effectiveCount ⟨some policy, count, last, now⟩ = 0 ∧
        withinMsOf (some policy) < (now : Rat) - (last : Rat) := by
  rw [effectiveCount]
  split
  case isTrue h =>
    simp only [windowExpired, Bool.and_eq_true, decide_eq_true_eq] at h
    exact .inr ⟨rfl, h.2⟩
  case isFalse h =>
    simp only [windowExpired, Bool.and_eq_true, decide_eq_true_eq, not_and, not_lt] at h
    exact .inl ⟨rfl, h⟩

namespace Kept

theorem chained_now (h : Kept policy now count last fs)
    (hc : effectiveCount ⟨some policy, count, last, now⟩ = c) (d : Decision) :
    Chained (withinMsOf (some policy)) (c + 1) (⟨now, d⟩ :: fs) := by
  obtain ⟨hcount, hgap⟩ | ⟨hzero, -⟩ := effectiveCount_cases policy count last now
  · obtain rfl : c = count := hc.symm.trans hcount
    refine h.chained.cons fun g rest hfs hpos => ?_
    rw [h.head g rest hfs]
    exact hgap hpos
  · obtain rfl : c = 0 := hc.symm.trans hzero
    exact (h.chained.mono (Nat.zero_le count)).cons fun _ _ _ hpos => absurd hpos (Nat.lt_irrefl 0)

theorem recent_now (h : Kept policy now count last fs)
    (hc : effectiveCount ⟨some policy, count, last, now⟩ = c) {t : Rat}
    (ht : (now : Rat) ≤ t + withinMsOf (some policy)) : (since t fs).length ≤ c := by
  have hlast : (last : Rat) ≤ (now : Rat) := by exact_mod_cast h.last_le
  obtain ⟨hcount, -⟩ | ⟨-, hgap⟩ := effectiveCount_cases policy count last now
  · rw [← hc, hcount]
    exact h.recent t (hlast.trans ht)
  -- the window is over, so every failure is before that time
  · have hnone : since t fs = [] := by
      refine filter_eq_nil_iff.mpr fun f hf => ?_
      have hpast : (f.time : Rat) ≤ (last : Rat) := by exact_mod_cast h.past f hf
      simp only [decide_eq_true_eq, not_le]
      linarith
    rw [hnone]
    exact Nat.zero_le c

theorem later {later : Nat} (h : Kept policy now count last fs) (hle : now ≤ later) :
    Kept policy later count last fs :=
  { h with last_le := h.last_le.trans hle }

theorem restart (h : Kept policy now count last fs)
    (hc : effectiveCount ⟨some policy, count, last, now⟩ = c)
    (hmax : c < maxRestartsOf (some policy)) (m : Nat) :
    Kept policy now (c + 1) now (⟨now, .restart c m⟩ :: fs) where
  restarted := forall_mem_cons.mpr ⟨rfl, h.restarted⟩
  bounded := hmax
  head := fun f rest hfs => by rw [← (List.cons.inj hfs).1]
  past := forall_mem_cons.mpr ⟨le_rfl, fun f hf => (h.past f hf).trans h.last_le⟩
  last_le := le_rfl
  chained := h.chained_now hc _
  recent := fun t ht => by
    have hold := h.recent_now hc ht
    rw [since, filter_cons]
    split
    · exact Nat.succ_le_succ hold
    · exact hold.trans (Nat.le_succ c)

end Kept

theorem restartsIn_le_since (t length : Rat) (fs : List Failure) :
    (restartsIn t length fs).length ≤ (since t fs).length := by
  refine (monotone_filter_right fs fun f hf => ?_).length_le
  simp only [Bool.and_eq_true] at hf
  exact hf.1.2

/-- No interval of the length of the window has more restarts than the policy allows. -/
def WindowsBounded (policy : ActorSupervisionPolicy) (fs : List Failure) : Prop :=
  ∀ t : Rat, (restartsIn t (withinMsOf (some policy)) fs).length ≤ maxRestartsOf (some policy)

theorem WindowsBounded.restart (hw : WindowsBounded policy fs) (h : Kept policy now count last fs)
    (hc : effectiveCount ⟨some policy, count, last, now⟩ = c)
    (hmax : c < maxRestartsOf (some policy)) (m : Nat) :
    WindowsBounded policy (⟨now, .restart c m⟩ :: fs) := by
  intro t
  rw [restartsIn, filter_cons]
  split
  case isTrue hin =>
    simp only [Bool.and_eq_true, decide_eq_true_eq] at hin
    have hold := (restartsIn_le_since t (withinMsOf (some policy)) fs).trans
      (h.recent_now hc hin.2)
    rw [length_cons]
    exact (Nat.succ_le_succ hold).trans hmax
  case isFalse => exact hw t

theorem WindowsBounded.other (hw : WindowsBounded policy fs) (hf : f.restarted = false) :
    WindowsBounded policy (f :: fs) := by
  intro t
  rw [restartsIn, filter_cons, hf]
  exact hw t

end Ledger

section Runs

variable {policy : ActorSupervisionPolicy} {o o' : Observed}

structure Precise (policy : ActorSupervisionPolicy) (o : Observed) : Prop where
  policy_eq : o.actor.policy = policy
  kept : o.actor.phase ≠ .stopped →
    Kept policy o.actor.now (ledger o.actor).1 (ledger o.actor).2 o.failures
  windows : WindowsBounded policy o.failures
  exceeded : .stopped .maxRestartsExceeded ∈ o.actor.log → o.actor.phase = .stopped ∧
    Chained (withinMsOf (some policy)) (maxRestartsOf (some policy) + 1) o.failures

theorem begin_precise (policy : ActorSupervisionPolicy) (now : Nat) :
    Precise policy (begin policy now) where
  policy_eq := rfl
  kept := fun _ =>
    { restarted := fun _ hf => absurd hf not_mem_nil
      bounded := Nat.zero_le _
      head := nofun
      past := fun _ hf => absurd hf not_mem_nil
      last_le := Nat.zero_le _
      chained := ⟨Nat.zero_le _, isChain_nil⟩
      recent := fun _ _ => Nat.zero_le _ }
  windows := fun _ => Nat.zero_le _
  exceeded := fun h => absurd h not_mem_nil

theorem Precise.kept_step (h : Precise policy o) (hpolicy : o'.actor.policy = o.actor.policy)
    (hfailures : o'.failures = o.failures) (hlog : .stopped .maxRestartsExceeded ∈ o'.actor.log →
      .stopped .maxRestartsExceeded ∈ o.actor.log)
    (hstopped : o.actor.phase = .stopped → o'.actor.phase = .stopped)
    (hledger : o'.actor.phase ≠ .stopped → ledger o'.actor = ledger o.actor)
    (hnow : o.actor.now ≤ o'.actor.now) : Precise policy o' where
  policy_eq := hpolicy.trans h.policy_eq
  kept := fun hphase => by
    rw [hledger hphase, hfailures]
    exact (h.kept fun he => hphase (hstopped he)).later hnow
  windows := hfailures ▸ h.windows
  exceeded := fun he => by
    obtain ⟨hphase, hchained⟩ := h.exceeded (hlog he)
    exact ⟨hstopped hphase, hfailures ▸ hchained⟩

theorem mem_of_mem_concat {log : List Entry} {e e' : Entry} (h : e ∈ log ++ [e']) (hne : e ≠ e') :
    e ∈ log := by
  obtain h | h := mem_append.mp h
  · exact h
  · exact absurd (mem_singleton.mp h) hne

theorem Precise.fail (hstrategy : policy.strategy = .restart) (h : Precise policy o)
    (hrunning : o.actor.phase = .running) : Precise policy ⟨o.actor.applySupervisionStrategy,
      ⟨o.actor.now, o.actor.decision⟩ :: o.failures⟩ := by
  have hkept := h.kept (by rw [hrunning]; simp)
  have hledger : ledger o.actor = (o.actor.restartCount, o.actor.lastRestartTime) := by
    rw [ledger, hrunning]
  rw [hledger] at hkept
  generalize hc : effectiveCount ⟨some policy, o.actor.restartCount, o.actor.lastRestartTime,
    o.actor.now⟩ = c at *
  have hdecision : o.actor.decision =
      if maxRestartsOf (some policy) ≤ c then .stopPermanent c (maxRestartsOf (some policy))
      else .restart c (maxRestartsOf (some policy)) := by
    rw [Supervised.decision, h.policy_eq, resolve_restart hstrategy, hc]
  rw [Supervised.applySupervisionStrategy, hdecision]
  by_cases hmax : maxRestartsOf (some policy) ≤ c
  · rw [if_pos hmax]
    exact ⟨h.policy_eq, fun hne => absurd rfl hne, h.windows.other rfl,
      fun _ => ⟨rfl, (hkept.chained_now hc _).mono (Nat.succ_le_succ hmax)⟩⟩
  · rw [if_neg hmax]
    have hlt := Nat.lt_of_not_le hmax
    refine ⟨h.policy_eq, fun _ => hkept.restart hc hlt _, h.windows.restart hkept hc hlt _,
      fun he => ?_⟩
    cases hrunning.symm.trans (h.exceeded he).1

theorem Precise.observe_step (hstrategy : policy.strategy = .restart) {a : Action}
    (h : Precise policy o) (ho : observe o a = some o') : Precise policy o' := by
  cases a with
  | spawn => cases ho
  | fail =>
    simp only [observe, step] at ho
    split at ho
    case isTrue hrunning =>
      cases ho
      exact h.fail hstrategy hrunning
    case isFalse => cases ho
  | succeed =>
    simp only [observe, step] at ho
    split at ho
    case isTrue hrunning =>
      cases ho
      exact h.kept_step rfl rfl (fun he => mem_of_mem_concat he (by simp)) id (fun _ => rfl) le_rfl
    case isFalse => cases ho
  | wake =>
    simp only [observe, step] at ho
    split at ho
    case h_1 count startedAt due hphase =>
      split at ho
      case isTrue =>
        cases ho
        refine h.kept_step rfl rfl (fun he => mem_of_mem_concat he (by simp)) (fun he => ?_)
          (fun _ => ?_) le_rfl
        · rw [hphase] at he
          cases he
        · rw [ledger, ledger, hphase]
          rfl
      case isFalse => cases ho
    case h_2 => cases ho
  | stop =>
    simp only [observe] at ho
    split at ho
    case h_1 | h_2 => simp_all
    case h_3 count startedAt due hstop hphase =>
      cases ho
      refine h.kept_step rfl rfl (fun he => mem_of_mem_concat he (by simp)) id (fun _ => ?_) le_rfl
      rw [ledger, ledger, hphase]
    case h_4 =>
      simp only [step] at ho
      split at ho
      case isTrue =>
        cases ho
        exact h.kept_step rfl rfl (fun he => mem_of_mem_concat he (by simp)) (fun _ => rfl)
          (fun hne => absurd rfl hne) le_rfl
      case isFalse => cases ho
  | tick ms =>
    cases ho
    exact h.kept_step rfl rfl id id (fun _ => rfl) (Nat.le_add_right _ _)

def steadyRun : List Action :=
  [.fail, .tick 20000, .wake, .fail, .tick 20000, .wake, .fail, .tick 20000, .wake, .fail]

def standard : ActorSupervisionPolicy :=
  { strategy := .restart, maxRestarts := none, withinMs := none }

end Runs

end ActorWeb.RestartWindow
