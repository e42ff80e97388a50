import ActorWeb.LatticeOnce
import Mathlib.Algebra.Order.Ring.Nat

namespace ActorWeb.Lattice

open List

section Events

def LatticeEvent.satisfies (activationId : String) : LatticeEvent → Bool
  | .dependencySatisfied id _ _ _ _ _ => id = activationId
  | .activationTimedOut _ _ _ _ _ | .artifactPublished _ => false

def LatticeEvent.expires (activationId : String) : LatticeEvent → Bool
  | .activationTimedOut id _ _ _ _ => id = activationId
  | .dependencySatisfied _ _ _ _ _ _ | .artifactPublished _ => false

variable {activationId : String} {now : Int} {activations : List LatticeActivationRecord}

theorem satisfies_satisfied (a : LatticeActivationRecord) :
    (satisfied a).satisfies activationId = decide (a.activationId = activationId) := rfl

def named (activations : List LatticeActivationRecord) (activationId : String) : Nat :=
  activations.countP fun a => a.activationId = activationId

theorem countP_satisfied :
    (activations.map satisfied).countP (·.satisfies activationId) = named activations activationId := by
  rw [countP_map]
  rfl

theorem countP_timedOut :
    (activations.map (timedOut now)).countP (·.satisfies activationId) = 0 := by
  rw [countP_map, countP_eq_zero]
  intro a _
  exact Bool.false_ne_true

theorem named_eq_one {a : LatticeActivationRecord}
    (hnodup : (activations.map LatticeActivationRecord.activationId).Nodup) (ha : a ∈ activations) :
    named activations a.activationId = 1 := by
  have hcount : named activations a.activationId =
      (activations.map LatticeActivationRecord.activationId).count a.activationId := by
    rw [List.count, countP_map]
    rfl
  rw [hcount]
  exact count_eq_one_of_mem hnodup (mem_map_of_mem ha)

end Events

section Attempts

def attemptsOf (activations : List LatticeActivationRecord) (activationId : String) : Nat :=
  ((activations.filter fun a => a.activationId = activationId).map
    LatticeActivationRecord.attempts).sum

variable {t : Texts} {s s' : LatticeState} {m : LatticeMessage} {emit : List LatticeEvent}
  {activations new : List LatticeActivationRecord} {activationId dependencyId key : String}

theorem attemptsOf_append (activations new : List LatticeActivationRecord) (activationId : String) :
    attemptsOf (activations ++ new) activationId =
      attemptsOf activations activationId + attemptsOf new activationId := by
  unfold attemptsOf
  rw [filter_append, map_append, sum_append]

theorem attemptsOf_cons (a : LatticeActivationRecord) : attemptsOf (a :: activations) activationId =
    (if a.activationId = activationId then a.attempts else 0) +
      attemptsOf activations activationId := by
  unfold attemptsOf
  by_cases h : a.activationId = activationId <;> simp [h]

theorem attemptsOf_eq_zero (h : ∀ a ∈ activations, a.activationId ≠ activationId) :
    attemptsOf activations activationId = 0 := by
  unfold attemptsOf
  rw [filter_eq_nil_iff.mpr fun a ha => by simpa using h a ha]
  rfl

theorem attemptsOf_self {a : LatticeActivationRecord}
    (hnodup : (activations.map LatticeActivationRecord.activationId).Nodup) (ha : a ∈ activations) :
    attemptsOf activations a.activationId = a.attempts := by
  obtain ⟨before, after, rfl⟩ := append_of_mem ha
  rw [map_append, map_cons, nodup_middle, nodup_cons, mem_append,
    not_or] at hnodup
  have hbefore : attemptsOf before a.activationId = 0 :=
    attemptsOf_eq_zero fun b hb hid => hnodup.1.1 (mem_map.mpr ⟨b, hb, hid⟩)
  have hafter : attemptsOf after a.activationId = 0 :=
    attemptsOf_eq_zero fun b hb hid => hnodup.1.2 (mem_map.mpr ⟨b, hb, hid⟩)
  rw [attemptsOf_append, attemptsOf_cons, if_pos rfl, hbefore, hafter, Nat.add_zero, Nat.zero_add]

theorem attemptsOf_deliver (timeoutMs now : Int) (activationId : String)
    (h : ∀ a ∈ new, a.attempts = 0) :
    attemptsOf (new.map (deliver timeoutMs now)) activationId = named new activationId := by
  unfold named
  induction new with
  | nil => rfl
  | cons a new ih =>
    rw [map_cons, attemptsOf_cons, ih fun b hb => h b (mem_cons_of_mem _ hb),
      countP_cons]
    have ha : (deliver timeoutMs now a).attempts = 1 := by
      change a.attempts + 1 = 1
      rw [h a mem_cons_self]
    by_cases hid : a.activationId = activationId
    · simp [deliver, hid, h a mem_cons_self, Nat.add_comm]
    · simp [deliver, hid]

theorem attemptsOf_redeliver (timeoutMs now : Int) :
    attemptsOf (activations.map (redeliver timeoutMs now)) activationId =
      attemptsOf activations activationId +
        named (activations.filter fun a => isDue now a) activationId := by
  unfold named
  induction activations with
  | nil => rfl
  | cons a activations ih =>
    rw [map_cons, attemptsOf_cons, ih, attemptsOf_cons, filter_cons]
    by_cases hdue : isDue now a = true
    · by_cases hid : a.activationId = activationId
      · simp [redeliver, deliver, hdue, hid]
        omega
      · simp [redeliver, deliver, hdue, hid]
    · by_cases hid : a.activationId = activationId
      · simp [redeliver, hdue, hid]
        omega
      · simp [redeliver, hdue, hid]

theorem attemptsOf_acknowledge (acknowledgedId : String) (at' : Int) :
    attemptsOf (activations.map (acknowledge acknowledgedId at')) activationId =
      attemptsOf activations activationId := by
  induction activations with
  | nil => rfl
  | cons a activations ih =>
    have hattempts : (acknowledge acknowledgedId at' a).attempts = a.attempts := by
      unfold acknowledge
      split <;> rfl
    rw [map_cons, attemptsOf_cons, ih, attemptsOf_cons, acknowledge_activationId, hattempts]

theorem attemptsOf_reset (hs : Settled s) (resetId : String) :
    attemptsOf (resetDependencyActivationState s resetId).activations
        (activationIdFor dependencyId key) =
      if dependencyId = resetId then 0
      else attemptsOf s.activations (activationIdFor dependencyId key) := by
  have hdependency : ∀ a ∈ s.activations, a.activationId = activationIdFor dependencyId key →
      a.dependencyId = dependencyId := fun a ha hid =>
    (activationIdFor_inj ((hs.named a ha).symm.trans hid)).1
  split
  case isTrue h =>
    refine attemptsOf_eq_zero fun a ha hid => ?_
    obtain ⟨hmem, hne⟩ := mem_filter.mp ha
    exact of_decide_eq_true hne ((hdependency a hmem hid).trans h)
  case isFalse h =>
    unfold attemptsOf resetDependencyActivationState
    rw [filter_filter]
    refine congrArg (fun as => (as.map LatticeActivationRecord.attempts).sum)
      (filter_congr fun a ha => ?_)
    by_cases hid : a.activationId = activationIdFor dependencyId key
    · simp [hid, hdependency a ha hid, h]
    · simp [hid]

end Attempts

section Turns

/-- A message and what was emitted for it, `none` when the reducer threw. -/
structure Turn where
  message : LatticeMessage
  emit : Option (List LatticeEvent)

def Turn.events (turn : Turn) : List LatticeEvent := turn.emit.getD []

variable (t : Texts)

def Turn.registers (turn : Turn) (dependencyId : String) : Bool :=
  match turn.message with
  | .registerDependency dependency _ =>
    turn.emit.isSome && (createRegisteredDependency t dependency).dependencyId = dependencyId
  | _ => false

def Turn.resets (turn : Turn) (dependencyId : String) : Bool :=
  match turn.message with
  | .withdrawDependency withdrawn => turn.emit.isSome && withdrawn = dependencyId
  | _ => turn.registers t dependencyId

/-- How often the activation was emitted since its dependency was last reset. -/
def emissions (dependencyId activationId : String) (turns : List Turn) : Nat :=
  turns.foldl (fun n turn => (if turn.resets t dependencyId then 0 else n) +
    turn.events.countP (·.satisfies activationId)) 0

/-- A state of the reducer with the messages that led to it. A message at which it throws leaves
the state. -/
structure History where
  state : LatticeState
  turns : List Turn

def turnOf (s : LatticeState) (m : LatticeMessage) : Turn :=
  ⟨m, (reduceLatticeMessage t s m).map LatticeReductionResult.emit⟩

def nextState (s : LatticeState) (m : LatticeMessage) : LatticeState :=
  ((reduceLatticeMessage t s m).map LatticeReductionResult.state).getD s

def History.handle (h : History) (m : LatticeMessage) : History :=
  ⟨nextState t h.state m, h.turns ++ [turnOf t h.state m]⟩

def history (latticeId : String) (timeoutMs : Option Int) (messages : List LatticeMessage) :
    History :=
  messages.foldl (History.handle t) ⟨createLatticeState latticeId timeoutMs, []⟩

end Turns

section Steps

variable {t : Texts} {s : LatticeState} {m : LatticeMessage} {turns : List Turn} {turn : Turn}
  {dependencyId key : String}

theorem settled_createLatticeState (latticeId : String) (timeoutMs : Option Int) :
    Settled (createLatticeState latticeId timeoutMs) := ⟨nofun, nofun, nofun, nodup_nil⟩

theorem emissions_concat (activationId : String) :
    emissions t dependencyId activationId (turns ++ [turn]) =
      (if turn.resets t dependencyId then 0 else emissions t dependencyId activationId turns) +
        turn.events.countP (·.satisfies activationId) := by
  unfold emissions
  rw [foldl_concat]

theorem turn_cases (hs : Settled s) : (nextState t s m = s ∧ turnOf t s m = ⟨m, none⟩) ∨
    (∃ withdrawn, m = .withdrawDependency withdrawn ∧ turnOf t s m = ⟨m, some []⟩ ∧
      nextState t s m = resetDependencyActivationState (withoutDependency s withdrawn) withdrawn) ∨
    ∃ emit, (∀ withdrawn, m ≠ .withdrawDependency withdrawn) ∧ turnOf t s m = ⟨m, some emit⟩ ∧
      Reduces t s m (nextState t s m) emit := by
  unfold nextState turnOf
  cases hreduce : reduceLatticeMessage t s m with
  | none => exact .inl ⟨rfl, rfl⟩
  | some result =>
    cases m with
    | withdrawDependency withdrawn =>
      cases hreduce
      exact .inr (.inl ⟨withdrawn, rfl, rfl, rfl⟩)
    | queryArtifacts _ | checkActivationTimeouts _ | registerDependency _ _ | ackActivation _ _
    | publishArtifact _ =>
      exact .inr (.inr ⟨result.emit, by simp, rfl, reduceLatticeMessage_reduces hs hreduce⟩)

theorem settled_nextState (hs : Settled s) (m : LatticeMessage) : Settled (nextState t s m) := by
  obtain ⟨hstate, -⟩ | ⟨withdrawn, -, -, hstate⟩ | ⟨emit, -, -, hr⟩ := turn_cases (m := m) hs
  · rw [hstate]
    exact hs
  · rw [hstate]
    exact (hs.withoutDependency withdrawn).reset withdrawn
  · exact hr.settled hs

theorem attemptsOf_nextState (hs : Settled s) :
    attemptsOf (nextState t s m).activations (activationIdFor dependencyId key) =
      (if (turnOf t s m).resets t dependencyId then 0
        else attemptsOf s.activations (activationIdFor dependencyId key)) +
      (turnOf t s m).events.countP (·.satisfies (activationIdFor dependencyId key)) := by
  obtain ⟨hstate, hturn⟩ | ⟨withdrawn, rfl, hturn, hstate⟩ | ⟨emit, hnot, hturn, hr⟩ :=
    turn_cases (t := t) (m := m) hs
  · have hkeeps : (⟨m, none⟩ : Turn).resets t dependencyId = false := by
      cases m <;> rfl
    rw [hstate, hturn, hkeeps]
    exact (Nat.add_zero _).symm
  · have hresets : (⟨.withdrawDependency withdrawn, some []⟩ : Turn).resets t dependencyId =
        decide (withdrawn = dependencyId) := Bool.true_and _
    rw [hstate, hturn, hresets, attemptsOf_reset (hs.withoutDependency withdrawn)]
    simp [withoutDependency, Turn.events, eq_comm]
  · rw [hturn]
    generalize nextState t s m = s' at hr
    cases hr with
    | silent _ nothing =>
      have hkeeps : (⟨m, some []⟩ : Turn).resets t dependencyId = false := by
        cases m with
        | registerDependency dependency registeredAt => exact absurd rfl (nothing _ _)
        | withdrawDependency withdrawn => exact absurd rfl (hnot _)
        | queryArtifacts _ | checkActivationTimeouts _ | ackActivation _ _
        | publishArtifact _ => rfl
      rw [hkeeps]
      exact (Nat.add_zero _).symm
    | checked now =>
      have hemit : (⟨.checkActivationTimeouts now, some ((dueActivations s now).map (timedOut now) ++
          (dueActivations s now).map satisfied)⟩ : Turn).events.countP
            (·.satisfies (activationIdFor dependencyId key)) =
          named (dueActivations s now) (activationIdFor dependencyId key) := by
        rw [Turn.events, Option.getD_some, countP_append, countP_timedOut, countP_satisfied,
          Nat.zero_add]
      rw [hemit]
      exact attemptsOf_redeliver s.timeoutMs now
    | @registered dependency registeredAt d new keys input delivered =>
      subst input
      have hresets : (⟨.registerDependency dependency registeredAt, some (new.map satisfied)⟩ :
          Turn).resets t dependencyId =
          decide ((createRegisteredDependency t dependency).dependencyId = dependencyId) :=
        Bool.true_and _
      have hattempts := attemptsOf_deliver s.timeoutMs (registeredAt.getD 0)
        (activationIdFor dependencyId key) fun a ha => (delivered.queued.pending a ha).2
      rw [hresets, Turn.events, Option.getD_some, countP_satisfied, ← hattempts]
      refine (attemptsOf_append
        (resetDependencyActivationState (withDependency t s _) _).activations _ _).trans ?_
      rw [attemptsOf_reset (hs.withDependency _)]
      simp [withDependency, resetDependencyActivationState, eq_comm]
    | withdrawn withdrawn => exact absurd rfl (hnot _)
    | acknowledged activationId acknowledgedAt at' found awaited =>
      exact attemptsOf_acknowledge activationId at'
    | @published input artifact new keys fresh delivered =>
      have hattempts := attemptsOf_deliver s.timeoutMs artifact.publishedAt
        (activationIdFor dependencyId key) fun a ha => (delivered.queued.pending a ha).2
      rw [Turn.events, Option.getD_some, countP_cons, countP_satisfied, ← hattempts]
      exact attemptsOf_append s.activations _ _

end Steps

section Emissions

variable {t : Texts} {now : Int} {s s' : LatticeState} {m : LatticeMessage} {emit : List LatticeEvent}
  {deps : List RegisteredDependency} {new : List LatticeActivationRecord} {keys : DeliveredKeys}
  {a : LatticeActivationRecord}

theorem not_satisfies_of_fresh (hnew : Queued s new) (ha : a ∈ s.activations) :
    ∀ e ∈ new.map satisfied, e.satisfies a.activationId = false := by
  intro e he
  obtain ⟨b, hb, rfl⟩ := mem_map.mp he
  rw [satisfies_satisfied, decide_eq_false_iff_not]
  intro hid
  have hnodup := hnew.nodup
  rw [map_append, nodup_append] at hnodup
  exact hnodup.2.2 a.activationId (mem_map_of_mem ha) b.activationId (mem_map_of_mem hb)
    hid.symm

theorem mem_reset (ha : a ∈ s.activations) {resetId : String} (h : a.dependencyId ≠ resetId) :
    a ∈ (resetDependencyActivationState s resetId).activations :=
  mem_filter.mpr ⟨ha, decide_eq_true h⟩

theorem reemitted (hs : Settled s) (ha : a ∈ s.activations)
    (hkeeps : (turnOf t s m).resets t a.dependencyId = false) {before after : List LatticeEvent}
    {e : LatticeEvent} (hemit : (turnOf t s m).events = before ++ e :: after)
    (he : e.satisfies a.activationId = true) :
    ∃ now next, m = .checkActivationTimeouts now ∧ a.nextTimeoutAt = some next ∧ next ≤ now ∧
      before.countP (·.expires a.activationId) = 1 := by
  have hmem : e ∈ (turnOf t s m).events := by
    rw [hemit]
    exact mem_append_right _ mem_cons_self
  obtain ⟨-, hturn⟩ | ⟨withdrawn, -, hturn, -⟩ | ⟨emit, -, hturn, hr⟩ := turn_cases (t := t) (m := m) hs
  · rw [hturn] at hmem
    exact absurd hmem not_mem_nil
  · rw [hturn] at hmem
    exact absurd hmem not_mem_nil
  · rw [hturn] at hmem hemit hkeeps
    rw [Turn.events, Option.getD_some] at hmem hemit
    generalize nextState t s m = s' at hr
    cases hr with
    | silent _ _ | withdrawn _ | acknowledged _ _ _ _ _ => exact absurd hmem not_mem_nil
    | @registered dependency registeredAt d new keys input delivered =>
      subst input
      have hother : a.dependencyId ≠ (createRegisteredDependency t dependency).dependencyId := by
        intro hid
        rw [hid] at hkeeps
        simp [Turn.resets, Turn.registers] at hkeeps
      have hsilent := not_satisfies_of_fresh delivered.queued (mem_reset ha hother) e hmem
      rw [hsilent] at he
      cases he
    | published new keys fresh delivered =>
      obtain rfl | hmem := mem_cons.mp hmem
      · cases he
      · rw [not_satisfies_of_fresh delivered.queued ha e hmem] at he
        cases he
    | checked now =>
      have hdue : isDue now a = true := by
        obtain hexpired | hsatisfied := mem_append.mp hmem
        · obtain ⟨b, -, rfl⟩ := mem_map.mp hexpired
          cases he
        · obtain ⟨b, hb, rfl⟩ := mem_map.mp hsatisfied
          rw [satisfies_satisfied, decide_eq_true_eq] at he
          exact (mem_due_iff hs.nodup ha).mp (he ▸ mem_map_of_mem hb)
      obtain ⟨-, hnext⟩ := (Bool.and_eq_true _ _).mp hdue
      obtain ⟨next, hsome, hle⟩ := (Option.any_eq_true _ _).mp hnext
      refine ⟨now, next, rfl, hsome, Int.not_lt.mp (of_decide_eq_true hle), ?_⟩
      have hone : (((dueActivations s now).map (timedOut now)).countP
          (·.expires a.activationId)) = 1 := by
        rw [countP_map]
        exact named_eq_one ((filter_sublist.map _).nodup hs.nodup)
          (mem_filter.mpr ⟨ha, hdue⟩)
      -- the announcement stands behind all that is said to be due
      obtain ⟨rest, rfl, hrest⟩ | ⟨rest, hexpired, hrest⟩ := append_eq_append_iff.mp hemit
      · have hnone : rest.countP (·.expires a.activationId) = 0 := by
          refine countP_eq_zero.mpr fun e' he' => ?_
          obtain ⟨b, -, rfl⟩ := mem_map.mp (hrest ▸ mem_append_left _ he')
          exact Bool.false_ne_true
        rw [countP_append, hone, hnone]
      · cases rest with
        | nil =>
          rw [append_nil] at hexpired
          rw [← hexpired, hone]
        | cons e' rest =>
          obtain rfl := (List.cons.inj hrest).1
          have hmem' : e ∈ (dueActivations s now).map (timedOut now) := by
            rw [hexpired]
            exact mem_append_right _ mem_cons_self
          obtain ⟨b, -, rfl⟩ := mem_map.mp hmem'
          cases he

theorem due_emitted (hs : Settled s) (ha : a ∈ s.activations) (hdue : isDue now a = true) :
    timedOut now a ∈ (turnOf t s (.checkActivationTimeouts now)).events ∧
      satisfied a ∈ (turnOf t s (.checkActivationTimeouts now)).events := by
  have hevents : (turnOf t s (.checkActivationTimeouts now)).events =
      (dueActivations s now).map (timedOut now) ++ (dueActivations s now).map satisfied := by
    rw [turnOf, reduceLatticeMessage, evaluateActivationTimeouts_eq hs]
    rfl
  have hmem : a ∈ dueActivations s now := mem_filter.mpr ⟨ha, hdue⟩
  rw [hevents]
  exact ⟨mem_append_left _ (mem_map_of_mem hmem),
    mem_append_right _ (mem_map_of_mem hmem)⟩

end Emissions

section Silence

variable {t : Texts} {now : Int} {s s' : LatticeState} {m : LatticeMessage}
  {deps : List RegisteredDependency} {new : List LatticeActivationRecord} {keys : DeliveredKeys}
  {dependencyId key : String}

theorem queueSatisfactionActivations_mem
    (h : queueSatisfactionActivations t s deps now = some (withActivations s new)) :
    ∀ a ∈ new, ∃ d ∈ deps, a.dependencyId = d.dependencyId := by
  suffices hgo : ∀ {s s' : LatticeState}, queueSatisfactionActivations t s deps now = some s' →
      ∃ queued, s' = withActivations s queued ∧ ∀ a ∈ queued, ∃ d ∈ deps,
        a.dependencyId = d.dependencyId by
    obtain ⟨queued, hsame, hqueued⟩ := hgo h
    obtain rfl : new = queued := append_cancel_left (congrArg LatticeState.activations hsame)
    exact hqueued
  clear h
  intro s s' h
  induction deps generalizing s with
  | nil => exact ⟨[], (Option.some.inj h).symm.trans (withActivations_nil s).symm, nofun⟩
  | cons d deps ih =>
    obtain ⟨s₁, hfirst, hrest⟩ := Option.bind_eq_some_iff.mp (foldlM_cons.symm.trans h)
    rw [queueSatisfactionActivation_eq] at hfirst
    obtain ⟨queued, hqueued, rfl⟩ := Option.map_eq_some_iff.mp hfirst
    obtain ⟨more, rfl, hmore⟩ := ih hrest
    refine ⟨queued.toList ++ more, withActivations_append .., fun a ha => ?_⟩
    obtain ha | ha := mem_append.mp ha
    · obtain rfl := Option.mem_toList.mp ha
      exact ⟨d, mem_cons_self, (toQueue_named hqueued).1⟩
    · obtain ⟨d', hd', hid⟩ := hmore a ha
      exact ⟨d', mem_cons_of_mem _ hd', hid⟩

def Silenced (dependencyId key : String) (s : LatticeState) : Prop :=
  (∃ a ∈ s.activations, a.activationId = activationIdFor dependencyId key ∧
    a.status = .acknowledged) ∨
  (∀ d ∈ s.dependencies, d.dependencyId ≠ dependencyId) ∧
    ∀ a ∈ s.activations, a.activationId ≠ activationIdFor dependencyId key

theorem Silenced.delivered (h : Silenced dependencyId key s) (hd : Delivered t s deps now new keys)
    (hdeps : (∀ d ∈ s.dependencies, d.dependencyId ≠ dependencyId) →
      ∀ d ∈ deps, d.dependencyId ≠ dependencyId) :
    Silenced dependencyId key (delivery s now new keys).state ∧
      ∀ a ∈ new, a.activationId ≠ activationIdFor dependencyId key := by
  have hdeliver : ∀ a ∈ new.map (deliver s.timeoutMs now), ∃ b ∈ new,
      a.activationId = b.activationId := by
    intro a ha
    obtain ⟨b, hb, rfl⟩ := mem_map.mp ha
    exact ⟨b, hb, rfl⟩
  obtain ⟨a, ha, hid, hack⟩ | ⟨hnone, hgone⟩ := h
  · refine ⟨.inl ⟨a, mem_append_left _ ha, hid, hack⟩, fun b hb hb' => ?_⟩
    have hnodup := hd.queued.nodup
    rw [map_append, nodup_append] at hnodup
    exact hnodup.2.2 a.activationId (mem_map_of_mem ha) b.activationId (mem_map_of_mem hb)
      (hid.trans hb'.symm)
  · have hfresh : ∀ a ∈ new, a.activationId ≠ activationIdFor dependencyId key := by
      intro a ha hid
      obtain ⟨d, hmem, hdep⟩ := queueSatisfactionActivations_mem hd.queue a ha
      have hsame := (activationIdFor_inj ((hd.queued.named a ha).symm.trans hid)).1
      exact hdeps hnone d hmem (hdep.symm.trans hsame)
    refine ⟨.inr ⟨hnone, fun a ha => ?_⟩, hfresh⟩
    obtain ha | ha := mem_append.mp ha
    · exact hgone a ha
    · obtain ⟨b, hb, hid⟩ := hdeliver a ha
      rw [hid]
      exact hfresh b hb

theorem Silenced.next (hs : Settled s) (h : Silenced dependencyId key s)
    (hother : (turnOf t s m).registers t dependencyId = false) :
    Silenced dependencyId key (nextState t s m) ∧
      ∀ e ∈ (turnOf t s m).events, e.satisfies (activationIdFor dependencyId key) = false ∧
        e.expires (activationIdFor dependencyId key) = false := by
  have hnamed : ∀ a ∈ s.activations, a.activationId = activationIdFor dependencyId key →
      a.dependencyId = dependencyId := fun a ha hid =>
    (activationIdFor_inj ((hs.named a ha).symm.trans hid)).1
  have hsatisfied : ∀ {new : List LatticeActivationRecord},
      (∀ a ∈ new, a.activationId ≠ activationIdFor dependencyId key) →
      ∀ e ∈ new.map satisfied, e.satisfies (activationIdFor dependencyId key) = false ∧
        e.expires (activationIdFor dependencyId key) = false := by
    intro new hnew e he
    obtain ⟨b, hb, rfl⟩ := mem_map.mp he
    exact ⟨decide_eq_false (hnew b hb), rfl⟩
  obtain ⟨hstate, hturn⟩ | ⟨withdrawn, rfl, hturn, hstate⟩ | ⟨emit, hnot, hturn, hr⟩ :=
    turn_cases (t := t) (m := m) hs
  · rw [hstate, hturn]
    exact ⟨h, fun _ he => absurd he not_mem_nil⟩
  · rw [hstate, hturn]
    refine ⟨?_, fun _ he => absurd he not_mem_nil⟩
    by_cases hwithdrawn : dependencyId = withdrawn
    · subst hwithdrawn
      refine .inr ⟨fun d hd => of_decide_eq_true (mem_filter.mp hd).2, fun a ha hid => ?_⟩
      obtain ⟨hmem, hne⟩ := mem_filter.mp ha
      exact of_decide_eq_true hne (hnamed a hmem hid)
    · obtain ⟨a, ha, hid, hack⟩ | ⟨hnone, hgone⟩ := h
      · exact .inl ⟨a, mem_reset (s := withoutDependency s withdrawn) ha
          ((hnamed a ha hid).symm ▸ hwithdrawn), hid, hack⟩
      · exact .inr ⟨fun d hd => hnone d (mem_of_mem_filter hd),
          fun a ha => hgone a (mem_of_mem_filter ha)⟩
  · rw [hturn] at hother ⊢
    rw [Turn.events, Option.getD_some]
    generalize nextState t s m = s' at hr
    cases hr with
    | silent _ _ => exact ⟨h, fun _ he => absurd he not_mem_nil⟩
    | withdrawn withdrawn => exact absurd rfl (hnot withdrawn)
    | acknowledged activationId acknowledgedAt at' _ _ =>
      refine ⟨?_, fun _ he => absurd he not_mem_nil⟩
      obtain ⟨a, ha, hid, hack⟩ | ⟨hnone, hgone⟩ := h
      · refine .inl ⟨acknowledge activationId at' a, mem_map_of_mem ha, ?_, ?_⟩
        · rw [acknowledge_activationId, hid]
        · unfold acknowledge
          split
          · rfl
          · exact hack
      · refine .inr ⟨hnone, fun a ha => ?_⟩
        obtain ⟨b, hb, rfl⟩ := mem_map.mp ha
        rw [acknowledge_activationId]
        exact hgone b hb
    | @registered dependency registeredAt d new keys input delivered =>
      subst input
      have hne : (createRegisteredDependency t dependency).dependencyId ≠ dependencyId := by
        simpa [Turn.registers] using hother
      have hreset : Silenced dependencyId key (resetDependencyActivationState
          (withDependency t s (createRegisteredDependency t dependency))
          (createRegisteredDependency t dependency).dependencyId) := by
        obtain ⟨a, ha, hid, hack⟩ | ⟨hnone, hgone⟩ := h
        · exact .inl ⟨a, mem_reset (s := withDependency t s _) ha
            ((hnamed a ha hid).symm ▸ hne.symm), hid, hack⟩
        · refine .inr ⟨fun d hd => ?_, fun a ha => hgone a (mem_of_mem_filter ha)⟩
          obtain ⟨hmem, -⟩ | rfl := mem_withDependency.mp hd
          · exact hnone d hmem
          · exact hne
      obtain ⟨hstate, hnew⟩ := hreset.delivered delivered
        fun _ d hd => (mem_singleton.mp hd).symm ▸ hne
      exact ⟨hstate, hsatisfied hnew⟩
    | @published input artifact new keys fresh delivered =>
      have hkept : Silenced dependencyId key (withArtifact s artifact) := h
      obtain ⟨hstate, hnew⟩ := hkept.delivered delivered
        fun hnone d hd => hnone d (mem_of_mem_filter hd)
      refine ⟨hstate, fun e he => ?_⟩
      obtain rfl | he := mem_cons.mp he
      · exact ⟨rfl, rfl⟩
      · exact hsatisfied hnew e he
    | checked now =>
      have hdue : ∀ a ∈ dueActivations s now,
          a.activationId ≠ activationIdFor dependencyId key := by
        intro a ha hid
        obtain ⟨hmem, hdue⟩ := mem_filter.mp ha
        obtain ⟨b, hb, hid', hack⟩ | ⟨-, hgone⟩ := h
        · obtain rfl := inj_on_of_nodup_map hs.nodup hmem hb (hid.trans hid'.symm)
          rw [hack] at hdue
          cases hdue
        · exact hgone a hmem hid
      refine ⟨?_, fun e he => ?_⟩
      · obtain ⟨a, ha, hid, hack⟩ | ⟨hnone, hgone⟩ := h
        · refine .inl ⟨a, mem_map.mpr ⟨a, ha, if_neg ?_⟩, hid, hack⟩
          rw [isDue, hack]
          exact Bool.false_ne_true
        · refine .inr ⟨hnone, fun a ha => ?_⟩
          obtain ⟨b, hb, rfl⟩ := mem_map.mp ha
          have hid : (redeliver s.timeoutMs now b).activationId = b.activationId := by
            unfold redeliver
            split <;> rfl
          rw [hid]
          exact hgone b hb
      · obtain he | he := mem_append.mp he
        · obtain ⟨b, hb, rfl⟩ := mem_map.mp he
          exact ⟨rfl, decide_eq_false (hdue b hb)⟩
        · exact hsatisfied hdue e he

end Silence

section Lifecycle

variable {t : Texts} {h : History} {m : LatticeMessage} {messages : List LatticeMessage}

structure History.Counted (t : Texts) (h : History) : Prop where
  settled : Settled h.state
  attempts : ∀ dependencyId key,
    attemptsOf h.state.activations (activationIdFor dependencyId key) =
      emissions t dependencyId (activationIdFor dependencyId key) h.turns

theorem History.Counted.handle (hc : h.Counted t) (m : LatticeMessage) : (h.handle t m).Counted t where
  settled := settled_nextState hc.settled m
  attempts dependencyId key := by
    rw [History.handle, attemptsOf_nextState hc.settled, emissions_concat, hc.attempts]

theorem History.Counted.run (hc : h.Counted t) (messages : List LatticeMessage) :
    (messages.foldl (History.handle t) h).Counted t := by
  induction messages generalizing h with
  | nil => exact hc
  | cons m messages ih => exact ih (hc.handle m)

theorem history_counted (t : Texts) (latticeId : String) (timeoutMs : Option Int)
    (messages : List LatticeMessage) : (history t latticeId timeoutMs messages).Counted t :=
  History.Counted.run ⟨settled_createLatticeState latticeId timeoutMs, fun _ _ => rfl⟩ messages

theorem History.turns_run (later : List LatticeMessage) (h : History) :
    ∃ turns, (later.foldl (History.handle t) h).turns = h.turns ++ turns := by
  induction later generalizing h with
  | nil => exact ⟨[], (append_nil _).symm⟩
  | cons m later ih =>
    obtain ⟨turns, hturns⟩ := ih (h.handle t m)
    refine ⟨turnOf t h.state m :: turns, ?_⟩
    rw [foldl_cons, hturns, History.handle, append_assoc]
    rfl

theorem Silenced.run {dependencyId key : String} (hc : h.Counted t)
    (hsilenced : Silenced dependencyId key h.state) (later : List LatticeMessage) :
    ∃ turns, (later.foldl (History.handle t) h).turns = h.turns ++ turns ∧
      ((∀ turn ∈ turns, turn.registers t dependencyId = false) →
        ∀ turn ∈ turns, ∀ e ∈ turn.events,
          e.satisfies (activationIdFor dependencyId key) = false ∧
            e.expires (activationIdFor dependencyId key) = false) := by
  induction later generalizing h with
  | nil => exact ⟨[], (append_nil _).symm, fun _ turn hturn => absurd hturn not_mem_nil⟩
  | cons m later ih =>
    have hsplit : ∀ turns, (later.foldl (History.handle t) (h.handle t m)).turns =
        (h.handle t m).turns ++ turns →
        ((m :: later).foldl (History.handle t) h).turns =
          h.turns ++ turnOf t h.state m :: turns := by
      intro turns hturns
      rw [foldl_cons, hturns, History.handle, append_assoc]
      rfl
    by_cases hother : (turnOf t h.state m).registers t dependencyId = false
    · obtain ⟨hnext, hquiet⟩ := hsilenced.next hc.settled hother
      obtain ⟨turns, hturns, hrest⟩ := ih (hc.handle m) hnext
      refine ⟨turnOf t h.state m :: turns, hsplit turns hturns, fun hnone turn hturn => ?_⟩
      obtain rfl | hturn := mem_cons.mp hturn
      · exact hquiet
      · exact hrest (fun other hmem => hnone other (mem_cons_of_mem _ hmem)) turn hturn
    · obtain ⟨turns, hturns⟩ := History.turns_run later (h.handle t m)
      refine ⟨turnOf t h.state m :: turns, hsplit turns hturns, fun hnone => ?_⟩
      exact absurd (hnone _ mem_cons_self) hother

/-- Between messages no activation is pending, each one was attempted as often as it was emitted,
and their ids differ. An activation is emitted again only by a timeout check at which it is due,
after it is said once to have timed out, and every check does this for all that are due. What is
acknowledged is not named again until its dependency is registered. -/
theorem activation_lifecycle (t : Texts) (latticeId : String) (timeoutMs : Option Int)
    (messages : List LatticeMessage) :
    let h := history t latticeId timeoutMs messages
    (∀ a ∈ h.state.activations, a.status ≠ .pending ∧
      a.attempts = emissions t a.dependencyId a.activationId h.turns) ∧
    (h.state.activations.map LatticeActivationRecord.activationId).Nodup ∧
    (∀ m, ∀ a ∈ h.state.activations, (turnOf t h.state m).resets t a.dependencyId = false →
      ∀ before e after, (turnOf t h.state m).events = before ++ e :: after →
        e.satisfies a.activationId = true →
        ∃ now next, m = .checkActivationTimeouts now ∧ a.nextTimeoutAt = some next ∧ next ≤ now ∧
          before.countP (·.expires a.activationId) = 1) ∧
    (∀ now next, ∀ a ∈ h.state.activations, a.status = .delivered →
      a.nextTimeoutAt = some next → next ≤ now →
      timedOut now a ∈ (turnOf t h.state (.checkActivationTimeouts now)).events ∧
        satisfied a ∈ (turnOf t h.state (.checkActivationTimeouts now)).events) ∧
    ∀ a ∈ h.state.activations, a.status = .acknowledged → ∀ later,
      ∃ turns, (history t latticeId timeoutMs (messages ++ later)).turns = h.turns ++ turns ∧
        ((∀ turn ∈ turns, turn.registers t a.dependencyId = false) →
          ∀ turn ∈ turns, ∀ e ∈ turn.events,
            e.satisfies a.activationId = false ∧ e.expires a.activationId = false) := by
  intro h
  have hc : h.Counted t := history_counted t latticeId timeoutMs messages
  refine ⟨fun a ha => ⟨(hc.settled.delivered a ha).1, ?_⟩, hc.settled.nodup, ?_, ?_, ?_⟩
  · rw [← attemptsOf_self hc.settled.nodup ha, hc.settled.named a ha]
    exact hc.attempts a.dependencyId a.satisfactionKey
  · exact fun m a ha hkeeps before e after hemit he => reemitted hc.settled ha hkeeps hemit he
  · intro now next a ha hstatus hnext hle
    refine due_emitted hc.settled ha ?_
    rw [isDue, hstatus, hnext]
    simpa using hle
  · intro a ha hack later
    rw [history, foldl_append, hc.settled.named a ha]
    exact Silenced.run hc (.inl ⟨a, ha, hc.settled.named a ha, hack⟩) later

end Lifecycle

end ActorWeb.Lattice
