import ActorWeb.LatticeDelivery

namespace ActorWeb.Lattice

open List Option Transition

section Refinement

/-- The activations are equal, up to the deliveries that a timeout check repeated. -/
def SameActivation (live replayed : LatticeActivationRecord) : Prop :=
  live = replayed ∨ 1 < live.attempts ∧
    { live with
      attempts := replayed.attempts
      deliveredAt := replayed.deliveredAt
      nextTimeoutAt := replayed.nextTimeoutAt } = replayed

structure Refines (live replayed : LatticeState) : Prop where
  rest : live = { replayed with activations := live.activations }
  activations : List.Forall₂ SameActivation live.activations replayed.activations

variable {t : Texts} {now : Int} {live live' replayed : LatticeState}
  {a r : LatticeActivationRecord} {as rs : List LatticeActivationRecord}

theorem SameActivation.refl (a : LatticeActivationRecord) : SameActivation a a := .inl rfl

theorem Refines.refl (s : LatticeState) : Refines s s :=
  ⟨rfl, forall₂_same.mpr fun a _ => .refl a⟩

theorem SameActivation.fields (h : SameActivation a r) :
    a.activationId = r.activationId ∧ a.dependencyId = r.dependencyId ∧ a.status = r.status := by
  obtain rfl | ⟨-, heq⟩ := h
  · exact ⟨rfl, rfl, rfl⟩
  · rw [← heq]
    exact ⟨rfl, rfl, rfl⟩

theorem blocked_same (h : List.Forall₂ SameActivation as rs) : blocked as = blocked rs := by
  funext activationId
  induction h with
  | nil => rfl
  | @cons a r as rs ha _ ih =>
    obtain ⟨hid, -, hstatus⟩ := ha.fields
    unfold blocked at ih ⊢
    rw [find?_cons, find?_cons, ← hid]
    split
    · rw [any_some, any_some, hstatus]
    · exact ih

theorem ids_same (h : List.Forall₂ SameActivation as rs) :
    as.map LatticeActivationRecord.activationId = rs.map LatticeActivationRecord.activationId := by
  induction h with
  | nil => rfl
  | cons ha _ ih => rw [map_cons, map_cons, ih, ha.fields.1]

theorem Refines.withActivations (h : Refines live replayed) (new : List LatticeActivationRecord) :
    Refines (withActivations live new) (withActivations replayed new) where
  rest := by
    unfold Lattice.withActivations
    rw [h.rest]
  activations := rel_append h.activations (forall₂_same.mpr fun a _ => .refl a)

theorem Refines.artifacts (h : Refines live replayed) : live.artifacts = replayed.artifacts := by
  rw [h.rest]

theorem Refines.dependencies (h : Refines live replayed) :
    live.dependencies = replayed.dependencies := by
  rw [h.rest]

theorem Refines.deliveredKeys (h : Refines live replayed) :
    live.deliveredSatisfactionKeys = replayed.deliveredSatisfactionKeys := by
  rw [h.rest]

theorem Refines.timeoutMs (h : Refines live replayed) : live.timeoutMs = replayed.timeoutMs := by
  rw [h.rest]

theorem Refines.journalVersion (h : Refines live replayed) :
    live.journalVersion = replayed.journalVersion := by
  rw [h.rest]

theorem Refines.latticeId (h : Refines live replayed) : live.latticeId = replayed.latticeId := by
  rw [h.rest]

theorem Refines.toQueue (h : Refines live replayed) (d : RegisteredDependency) :
    toQueue t now live d = toQueue t now replayed d :=
  toQueue_congr h.artifacts h.deliveredKeys (blocked_same h.activations)

theorem Refines.queue (h : Refines live replayed) {deps : List RegisteredDependency}
    (hq : queueSatisfactionActivations t live deps now = some live') :
    ∃ new, live' = Lattice.withActivations live new ∧
      queueSatisfactionActivations t replayed deps now =
        some (Lattice.withActivations replayed new) := by
  induction deps generalizing live replayed with
  | nil =>
    obtain rfl := some.inj hq
    exact ⟨[], (withActivations_nil live).symm, congrArg some (withActivations_nil replayed).symm⟩
  | cons d deps ih =>
    obtain ⟨s, hfirst, hrest⟩ := bind_eq_some_iff.mp (foldlM_cons.symm.trans hq)
    rw [queueSatisfactionActivation_eq, h.toQueue] at hfirst
    obtain ⟨queued, hqueued, rfl⟩ := map_eq_some_iff.mp hfirst
    obtain ⟨new, rfl, hreplayed⟩ := ih (h.withActivations queued.toList) hrest
    refine ⟨queued.toList ++ new, withActivations_append .., ?_⟩
    rw [queueSatisfactionActivations, foldlM_cons, queueSatisfactionActivation_eq, hqueued,
      ← withActivations_append]
    exact hreplayed

theorem Refines.queued (h : Refines live replayed) {new : List LatticeActivationRecord}
    (hnew : Queued live new) : Queued replayed new where
  pending := hnew.pending
  named := hnew.named
  nodup := by
    rw [map_append, ← ids_same h.activations, ← map_append]
    exact hnew.nodup

theorem Refines.queueAndDeliver (h : Refines live replayed) (hlive : Settled live)
    (hreplayed : Settled replayed) {deps : List RegisteredDependency} {d : Delivery}
    (hd : queueAndDeliver t live deps now = some d) :
    ∃ d', Lattice.queueAndDeliver t replayed deps now = some d' ∧ Refines d.state d'.state := by
  obtain ⟨new, keys, hdelivered, rfl⟩ := queueAndDeliver_spec hlive hd
  obtain ⟨new', hsame, hqueue⟩ := h.queue hdelivered.queue
  obtain rfl : new = new' :=
    append_cancel_left (congrArg LatticeState.activations hsame)
  refine ⟨delivery replayed now new keys, ?_, ?_⟩
  · rw [Lattice.queueAndDeliver, hqueue, bind_some,
      deliverPendingActivations_queued hreplayed (h.queued hdelivered.queued), ← h.deliveredKeys,
      hdelivered.record, map_some]
  · refine ⟨?_, ?_⟩
    · unfold delivery
      dsimp only
      rw [h.rest]
    · unfold delivery
      rw [← h.timeoutMs]
      exact rel_append h.activations (forall₂_same.mpr fun a _ => .refl a)

theorem Refines.reset (h : Refines live replayed) (dependencyId : String) :
    Refines (resetDependencyActivationState live dependencyId)
      (resetDependencyActivationState replayed dependencyId) where
  rest := by
    unfold resetDependencyActivationState
    rw [h.rest]
  activations := rel_filter (fun a r ha => by
    change decide (a.dependencyId ≠ dependencyId) = true ↔ decide (r.dependencyId ≠ dependencyId) = true
    rw [ha.fields.2.1]) h.activations

theorem SameActivation.acknowledge (h : SameActivation a r) (activationId : String) (at' : Int) :
    SameActivation (acknowledge activationId at' a) (acknowledge activationId at' r) := by
  obtain rfl | ⟨hattempts, heq⟩ := h
  · exact .refl _
  · rw [← heq]
    unfold Lattice.acknowledge
    dsimp only
    split
    · exact .inr ⟨hattempts, rfl⟩
    · exact .inr ⟨hattempts, rfl⟩

theorem Refines.acknowledged (h : Refines live replayed) (activationId : String) (at' : Int) :
    Refines (withAcknowledgement live activationId at')
      (withAcknowledgement replayed activationId at') where
  rest := by
    unfold withAcknowledgement
    rw [h.rest]
  activations := rel_map (fun _ _ ha => ha.acknowledge activationId at') h.activations

theorem Refines.counted (h : Refines live replayed) :
    Refines (Lattice.counted live) (Lattice.counted replayed) :=
  ⟨by unfold Lattice.counted; rw [h.rest], h.activations⟩

theorem Refines.withArtifact (h : Refines live replayed) (artifact : ArtifactRecord) :
    Refines (Lattice.withArtifact live artifact) (Lattice.withArtifact replayed artifact) :=
  ⟨by unfold Lattice.withArtifact; rw [h.rest], h.activations⟩

theorem Refines.withDependency (h : Refines live replayed) (d : RegisteredDependency) :
    Refines (Lattice.withDependency t live d) (Lattice.withDependency t replayed d) :=
  ⟨by unfold Lattice.withDependency; rw [h.rest], h.activations⟩

theorem Refines.withoutDependency (h : Refines live replayed) (dependencyId : String) :
    Refines (Lattice.withoutDependency live dependencyId)
      (Lattice.withoutDependency replayed dependencyId) :=
  ⟨by unfold Lattice.withoutDependency; rw [h.rest], h.activations⟩

theorem Refines.applyJournalEvent (h : Refines live replayed) (hlive : Settled live)
    (hreplayed : Settled replayed) {e : LatticeJournalEvent}
    (he : applyJournalEvent t live e = some live') :
    ∃ replayed', Lattice.applyJournalEvent t replayed e = some replayed' ∧
      Refines live' replayed' := by
  cases e with
  | artifactPublished artifact =>
    obtain ⟨d, hd, rfl⟩ := map_eq_some_iff.mp he
    obtain ⟨d', hd', hrefines⟩ := (h.withArtifact artifact).counted.queueAndDeliver
      (hlive.withArtifact artifact).counted (hreplayed.withArtifact artifact).counted hd
    refine ⟨d'.state, map_eq_some_iff.mpr ⟨d', ?_, rfl⟩, hrefines⟩
    rw [(h.withArtifact artifact).counted.dependencies] at hd'
    exact hd'
  | dependencyRegistered dependency registeredAt =>
    obtain ⟨d, hd, rfl⟩ := map_eq_some_iff.mp he
    obtain ⟨d', hd', hrefines⟩ :=
      ((h.withDependency dependency).counted.reset dependency.dependencyId).queueAndDeliver
        ((hlive.withDependency dependency).counted.reset dependency.dependencyId)
        ((hreplayed.withDependency dependency).counted.reset dependency.dependencyId) hd
    exact ⟨d'.state, map_eq_some_iff.mpr ⟨d', hd', rfl⟩, hrefines⟩
  | dependencyWithdrawn dependencyId =>
    cases he
    exact ⟨_, rfl, (h.withoutDependency dependencyId).counted.reset dependencyId⟩
  | activationAcknowledged activationId acknowledgedAt =>
    cases he
    exact ⟨_, rfl, (h.acknowledged activationId acknowledgedAt).counted⟩

theorem SameActivation.redeliver (h : SameActivation a r) (timeoutMs now : Int)
    (hone : 1 ≤ a.attempts) : SameActivation (redeliver timeoutMs now a) r := by
  obtain hsame | ⟨hstatus, hdeliver⟩ := redeliver_cases timeoutMs now a
  · rw [hsame]
    exact h
  · rw [hdeliver]
    refine .inr ⟨Nat.lt_add_of_pos_left hone, ?_⟩
    obtain rfl | ⟨-, heq⟩ := h
    · unfold deliver
      rw [← hstatus]
    · unfold deliver
      rw [← hstatus]
      exact heq

theorem Refines.redelivered (h : Refines live replayed) (hlive : Settled live) (now : Int) :
    Refines { live with activations := live.activations.map (redeliver live.timeoutMs now) }
      replayed where
  rest := by
    dsimp only
    rw [h.rest]
  activations := by
    have hboth := (forall₂_and_left (p := fun a => 1 ≤ a.attempts) _ _).mpr
      ⟨fun a ha => (hlive.delivered a ha).2, h.activations⟩
    exact forall₂_map_left_iff.mpr
      (hboth.imp fun a r ha => ha.2.redeliver live.timeoutMs now ha.1)

end Refinement

section Journal

variable {t : Texts} {now : Int} {s s' : LatticeState} {m : LatticeMessage}
  {result : LatticeReductionResult}

theorem toQueue_counted {d : RegisteredDependency} :
    toQueue t now (counted s) d = toQueue t now s d :=
  toQueue_congr rfl rfl rfl

theorem queueSatisfactionActivations_counted (deps : List RegisteredDependency) :
    queueSatisfactionActivations t (counted s) deps now =
      (queueSatisfactionActivations t s deps now).map counted := by
  induction deps generalizing s with
  | nil => rfl
  | cons d deps ih =>
    unfold queueSatisfactionActivations at ih ⊢
    rw [foldlM_cons, foldlM_cons, queueSatisfactionActivation_eq,
      queueSatisfactionActivation_eq,
      toQueue_counted]
    cases toQueue t now s d with
    | none => rfl
    | some queued => exact ih (s := withActivations s queued.toList)

theorem queueAndDeliver_counted (s : LatticeState) (now : Int) (deps : List RegisteredDependency) :
    queueAndDeliver t (counted s) deps now =
      (queueAndDeliver t s deps now).map fun d => { d with state := counted d.state } := by
  unfold queueAndDeliver
  rw [queueSatisfactionActivations_counted]
  cases queueSatisfactionActivations t s deps now with
  | none => rfl
  | some queued =>
    simp only [map_some, bind_some]
    unfold deliverPendingActivations
    rw [Option.map_map]
    rfl

theorem reduceLatticeMessage_journal (h : reduceLatticeMessage t s m = some result) :
    (∃ e, result.journalEvents = [e] ∧ applyJournalEvent t s e = some (counted result.state)) ∨
      result.journalEvents = [] ∧ (result.state = s ∨ ∃ now d,
        evaluateActivationTimeouts s now = some d ∧ result.state = d.state) := by
  cases m with
  | queryArtifacts query =>
    cases h
    exact .inr ⟨rfl, .inl rfl⟩
  | checkActivationTimeouts now =>
    obtain ⟨d, hd, rfl⟩ := map_eq_some_iff.mp h
    exact .inr ⟨rfl, .inr ⟨now, d, hd, rfl⟩⟩
  | registerDependency dependency registeredAt =>
    obtain ⟨d, hd, rfl⟩ := map_eq_some_iff.mp h
    refine .inl ⟨_, rfl, ?_⟩
    have hcounted := queueAndDeliver_counted (t := t)
      (resetDependencyActivationState (withDependency t s (createRegisteredDependency t
        dependency)) (createRegisteredDependency t dependency).dependencyId) (registeredAt.getD 0)
      [createRegisteredDependency t dependency]
    rw [hd] at hcounted
    exact map_eq_some_iff.mpr ⟨_, hcounted, rfl⟩
  | withdrawDependency dependencyId =>
    cases h
    exact .inl ⟨_, rfl, rfl⟩
  | ackActivation activationId acknowledgedAt =>
    unfold reduceLatticeMessage at h
    cases hfind : s.activations.find? fun a => a.activationId = activationId with
    | none =>
      simp only [hfind] at h
      cases h
      exact .inr ⟨rfl, .inl rfl⟩
    | some current =>
      simp only [hfind] at h
      split at h
      case isTrue =>
        cases h
        exact .inr ⟨rfl, .inl rfl⟩
      case isFalse =>
        cases h
        exact .inl ⟨_, rfl, rfl⟩
  | publishArtifact artifact =>
    unfold reduceLatticeMessage at h
    cases hpublish : Lattice.publishArtifact t s.artifacts artifact with
    | none =>
      simp only [hpublish] at h
      cases h
      exact .inr ⟨rfl, .inl rfl⟩
    | some artifact =>
      simp only [hpublish] at h
      obtain ⟨d, hd, rfl⟩ := map_eq_some_iff.mp h
      refine .inl ⟨_, rfl, ?_⟩
      have hcounted := queueAndDeliver_counted (t := t) (withArtifact s artifact)
        artifact.publishedAt (impactedDependencies (withArtifact s artifact).dependencies artifact)
      rw [hd] at hcounted
      exact map_eq_some_iff.mpr ⟨_, hcounted, rfl⟩

variable {e : LatticeJournalEvent}

theorem applyJournalEvent_fields (hs : Settled s) (h : applyJournalEvent t s e = some s') :
    s'.latticeId = s.latticeId ∧ s'.journalVersion = s.journalVersion + 1 := by
  cases e with
  | artifactPublished artifact =>
    obtain ⟨d, hd, rfl⟩ := map_eq_some_iff.mp h
    obtain ⟨new, keys, -, rfl⟩ := queueAndDeliver_spec (hs.withArtifact artifact).counted hd
    exact ⟨rfl, rfl⟩
  | dependencyRegistered dependency registeredAt =>
    obtain ⟨d, hd, rfl⟩ := map_eq_some_iff.mp h
    obtain ⟨new, keys, -, rfl⟩ := queueAndDeliver_spec
      ((hs.withDependency dependency).counted.reset dependency.dependencyId) hd
    exact ⟨rfl, rfl⟩
  | dependencyWithdrawn dependencyId =>
    cases h
    exact ⟨rfl, rfl⟩
  | activationAcknowledged activationId acknowledgedAt =>
    cases h
    exact ⟨rfl, rfl⟩

variable {store store' : EventStore} {latticeId : String} {timeoutMs : Option Int}

theorem journalAppend_single {version next : Nat}
    (h : journalAppend store latticeId [e] version = some (store', next)) : next = version + 1 ∧
      store' = Function.update store latticeId
        (store latticeId ++ [toBaseEvent latticeId e (version + 1)]) := by
  obtain ⟨appended, happend, heq⟩ := map_eq_some_iff.mp h
  cases heq
  unfold EventStore.append at happend
  split at happend
  case isTrue => exact ⟨rfl, (some.inj happend).symm⟩
  case isFalse => cases happend

theorem journalAppend_isSome (store : EventStore) (latticeId : String) (e : LatticeJournalEvent) :
    (journalAppend store latticeId [e] (store latticeId).length).isSome = true := by
  have hnumbered : numbered (store latticeId).length
      [toBaseEvent latticeId e ((store latticeId).length + 0 + 1)] = true := by
    simp [numbered, toBaseEvent]
  unfold journalAppend EventStore.append
  rw [isSome_map]
  exact congrArg Option.isSome (if_pos ⟨rfl, hnumbered⟩)

theorem replayLatticeState_append {version : Nat}
    (hreplay : replayLatticeState t latticeId store timeoutMs = some s)
    (happly : applyJournalEvent t s e = some s') :
    replayLatticeState t latticeId (Function.update store latticeId
      (store latticeId ++ [toBaseEvent latticeId e version])) timeoutMs = some s' := by
  unfold replayLatticeState journalReplay EventStore.getEvents at hreplay ⊢
  rw [drop_zero] at hreplay
  rw [Function.update_self, drop_zero, map_append, foldlM_append, hreplay,
    bind_eq_bind, bind_some, map_singleton, foldlM_cons]
  exact bind_eq_some_iff.mpr ⟨s', happly, rfl⟩

end Journal

namespace LatticeActor

section Runs

variable {t : Texts} {options : LatticeOptions} {a a' : LatticeActor} {r : LatticeState}

/-- The journal replays to a state that the context refines once it is hydrated. -/
structure Consistent (t : Texts) (options : LatticeOptions) (a : LatticeActor) (r : LatticeState) :
    Prop where
  replay : replayLatticeState t options.latticeId a.store options.timeoutMs = some r
  settled : Settled r
  version : r.journalVersion = (a.store options.latticeId).length
  latticeId : r.latticeId = options.latticeId
  positive : 0 < a.objects
  hydrated : 0 ∉ a.hydratedContexts
  context : a.context = initialContext options ∨ a.context.object ∈ a.hydratedContexts ∧
    Settled a.context.state ∧ Refines a.context.state r

theorem consistent_start : Consistent t options (start options fun _ => [])
    (createLatticeState options.latticeId options.timeoutMs) where
  replay := rfl
  settled := ⟨nofun, nofun, nofun, nodup_nil⟩
  version := rfl
  latticeId := rfl
  positive := Nat.one_pos
  hydrated := not_mem_nil
  context := .inl rfl

theorem Consistent.restart (h : Consistent t options a r) :
    Consistent t options (a.restart options) r :=
  { h with context := .inl rfl }

theorem Consistent.hydrate (h : Consistent t options a r) {replayFails : Bool}
    {context : LatticeContext} (hh : a.hydrate t options replayFails = some (context, a')) :
    Consistent t options a' r ∧ Settled context.state ∧ Refines context.state r ∧
      a'.context = a.context ∧ a'.store = a.store ∧ a'.emitted = a.emitted := by
  unfold LatticeActor.hydrate at hh
  split at hh
  case isTrue hmem =>
    cases hh
    obtain hinitial | ⟨-, hsettled, hrefines⟩ := h.context
    · rw [hinitial] at hmem
      exact absurd hmem h.hydrated
    · exact ⟨h, hsettled, hrefines, rfl, rfl, rfl⟩
  case isFalse =>
    split at hh
    case isTrue => cases hh
    case isFalse =>
      rw [h.replay, map_some] at hh
      cases hh
      refine ⟨{ h with positive := Nat.succ_pos _, hydrated := ?_, context := ?_ }, h.settled,
        .refl r, rfl, rfl, rfl⟩
      · intro hmem
        obtain hzero | hmem := mem_cons.mp hmem
        · exact absurd hzero h.positive.ne
        · exact h.hydrated hmem
      · exact h.context.imp id fun hc => ⟨mem_cons_of_mem _ hc.1, hc.2⟩

theorem Consistent.commit (h : Consistent t options a r) {nextState r' : LatticeState}
    {store : EventStore} (emit : List LatticeEvent)
    (hreplay : replayLatticeState t options.latticeId store options.timeoutMs = some r')
    (hsettled : Settled r') (hversion : r'.journalVersion = (store options.latticeId).length)
    (hlattice : r'.latticeId = options.latticeId) (hnext : Settled nextState)
    (hrefines : Refines nextState r') :
    Consistent t options (a.commit nextState store emit) r' where
  replay := hreplay
  settled := hsettled
  version := hversion
  latticeId := hlattice
  positive := Nat.succ_pos _
  hydrated hmem := by
    obtain hzero | hmem := mem_cons.mp hmem
    · exact absurd hzero h.positive.ne
    · exact h.hydrated hmem
  context := .inr ⟨mem_cons_self, hnext, hrefines⟩

/-- What a message does: it fails and nothing is seen of it, or it is handled and the new context
refines what the journal now replays to. -/
inductive Outcome (t : Texts) (options : LatticeOptions) (a : LatticeActor) (r : LatticeState)
    (message : LatticeMessage) (replayFails appendFails : Bool) (a' : LatticeActor) :
    Bool → Prop
  | failed (consistent : Consistent t options a' r) (context : a'.context = a.context)
      (store : a'.store = a.store) (emitted : a'.emitted = a.emitted)
      (cause : replayFails = true ∨ appendFails = true ∨
        ∃ s, Refines s r ∧ reduceLatticeMessage t s message = none) :
      Outcome t options a r message replayFails appendFails a' false
  | handled (r' : LatticeState) (consistent : Consistent t options a' r')
      (refines : Refines a'.context.state r')
      (store : appendFails = true → a'.store = a.store) :
      Outcome t options a r message replayFails appendFails a' true

theorem Consistent.onMessage (h : Consistent t options a r) (message : LatticeMessage)
    (clock : Int) (replayFails appendFails : Bool) :
    Outcome t options a r (shellMessage clock message) replayFails appendFails
      (a.onMessage t options message clock replayFails appendFails).1
      (a.onMessage t options message clock replayFails appendFails).2 := by
  unfold LatticeActor.onMessage
  cases hhydrate : a.hydrate t options replayFails with
  | none =>
    refine .failed h rfl rfl rfl (.inl ?_)
    unfold LatticeActor.hydrate at hhydrate
    split at hhydrate
    case isTrue => cases hhydrate
    case isFalse =>
      split at hhydrate
      case isTrue hfails => exact hfails
      case isFalse => rw [h.replay] at hhydrate; cases hhydrate
  | some hydrated =>
    obtain ⟨context, noted⟩ := hydrated
    obtain ⟨hnoted, hsettled, hrefines, hcontext, hstore, hemitted⟩ := h.hydrate hhydrate
    dsimp only
    cases hreduce : reduceLatticeMessage t context.state (shellMessage clock message) with
    | none =>
      exact .failed hnoted hcontext hstore hemitted (.inr (.inr ⟨_, hrefines, hreduce⟩))
    | some result =>
      dsimp only
      obtain ⟨e, hevents, happly⟩ | ⟨hevents, hstate⟩ := reduceLatticeMessage_journal hreduce
      · rw [if_neg (by rw [hevents]; exact cons_ne_nil _ _)]
        split
        case isTrue hfails => exact .failed hnoted hcontext hstore hemitted (.inr (.inl hfails))
        case isFalse hworks =>
          have hversion : context.state.journalVersion = (a.store options.latticeId).length :=
            hrefines.journalVersion.trans h.version
          have hid : context.state.latticeId = options.latticeId :=
            hrefines.latticeId.trans h.latticeId
          rw [hevents, hversion, hid]
          obtain ⟨appended, happend⟩ := isSome_iff_exists.mp
            (journalAppend_isSome a.store options.latticeId e)
          obtain ⟨store, next⟩ := appended
          obtain ⟨rfl, rfl⟩ := journalAppend_single happend
          rw [happend]
          obtain ⟨r', hr', hrefines'⟩ := hrefines.applyJournalEvent hsettled h.settled happly
          obtain ⟨hlattice', hversion'⟩ := applyJournalEvent_fields h.settled hr'
          obtain ⟨-, hcount⟩ := applyJournalEvent_fields hsettled happly
          have hcount : result.state.journalVersion = (a.store options.latticeId).length :=
            (Nat.succ.inj hcount).trans hversion
          have hnext : { result.state with
              journalVersion := (a.store options.latticeId).length + 1 } =
              counted result.state := by
            rw [← hcount]
            rfl
          dsimp only
          rw [hnext]
          refine .handled r' (hnoted.commit _ (replayLatticeState_append h.replay hr')
            (applyJournalEvent_settled h.settled hr') ?_ (hlattice'.trans h.latticeId)
            (applyJournalEvent_settled hsettled happly) hrefines') hrefines' (absurd · hworks)
          rw [hversion', h.version, Function.update_self, length_append]
          rfl
      · rw [if_pos hevents]
        have hnext : Settled result.state ∧ Refines result.state r := by
          obtain heq | ⟨now, d, hd, heq⟩ := hstate
          · rw [heq]
            exact ⟨hsettled, hrefines⟩
          · rw [evaluateActivationTimeouts_eq hsettled] at hd
            cases hd
            rw [heq]
            exact ⟨hsettled.redelivered now, hrefines.redelivered hsettled now⟩
        exact .handled r (hnoted.commit _ h.replay h.settled h.version h.latticeId hnext.1
          hnext.2) hnext.2 fun _ => rfl

theorem consistent_exec {actions : List Action}
    (h : exec (step t options) (start options fun _ => []) actions = some a) :
    ∃ r, Consistent t options a r := by
  refine exec_invariant (I := fun a => ∃ r, Consistent t options a r) ?_ ⟨_, consistent_start⟩ h
  rintro a action b ⟨r, hr⟩ hstep
  cases action with
  | restart =>
    cases hstep
    exact ⟨r, hr.restart⟩
  | message message clock replayFails appendFails =>
    cases hstep
    have houtcome := hr.onMessage message clock replayFails appendFails
    generalize (a.onMessage t options message clock replayFails appendFails).2 = handled
      at houtcome
    cases houtcome with
    | failed consistent => exact ⟨r, consistent⟩
    | handled r' consistent => exact ⟨r', consistent⟩

end Runs

/-- After every message that is handled the context is the one the journal replays to, up to
repeated deliveries. A message that fails changes nothing that is seen; the context may then still
be the initial one. -/
theorem context_refines_journal (t : Texts) (options : LatticeOptions) {actions : List Action}
    {a a' : LatticeActor} (h : exec (step t options) (start options fun _ => []) actions = some a)
    {message : LatticeMessage} {clock : Int} {replayFails appendFails handled : Bool}
    (hm : a.onMessage t options message clock replayFails appendFails = (a', handled)) :
    ∃ r, replayLatticeState t options.latticeId a'.store options.timeoutMs = some r ∧
      r.journalVersion = (a'.store options.latticeId).length ∧
      (handled = true → Refines a'.context.state r) ∧
      (appendFails = true → a'.store = a.store) ∧
      (handled = false →
        a'.context = a.context ∧ a'.store = a.store ∧ a'.emitted = a.emitted ∧
        (a'.context = initialContext options ∨ Refines a'.context.state r) ∧
        (replayFails = true ∨ appendFails = true ∨
          ∃ s, Refines s r ∧ reduceLatticeMessage t s (shellMessage clock message) = none)) := by
  obtain ⟨r, hr⟩ := consistent_exec h
  have houtcome := hr.onMessage message clock replayFails appendFails
  rw [hm] at houtcome
  dsimp only at houtcome
  cases houtcome with
  | failed consistent context store emitted cause =>
    refine ⟨r, consistent.replay, consistent.version, Bool.noConfusion, fun _ => store,
      fun _ => ⟨context, store, emitted, consistent.context.imp id fun hc => hc.2.2, cause⟩⟩
  | handled r' consistent refines store =>
    exact ⟨r', consistent.replay, consistent.version, fun _ => refines, store, Bool.noConfusion⟩

def plainLattice : LatticeOptions := ⟨"lattice", none⟩

def redeliveredRun : List Action :=
  [.message (.registerDependency (plainDependency "d" "a") none) 5 false false,
    .message (.publishArtifact (plainArtifact "a" 10)) 10 false false,
    .message (.checkActivationTimeouts 40000) 40000 false false]

theorem context_refines_journal_redelivered : ∃ a a',
    exec (step plainTexts plainLattice) (start plainLattice fun _ => []) redeliveredRun = some a ∧
    a.onMessage plainTexts plainLattice (.publishArtifact (plainArtifact "b" 41000)) 41000 false
      false = (a', true) ∧
    ∃ r, replayLatticeState plainTexts "lattice" a'.store none = some r ∧
      r.journalVersion = (a'.store "lattice").length ∧ Refines a'.context.state r := by
  have hrun : (exec (step plainTexts plainLattice) (start plainLattice fun _ => [])
      redeliveredRun).any (fun a => (a.onMessage plainTexts plainLattice
        (.publishArtifact (plainArtifact "b" 41000)) 41000 false false).2) = true := by
    decide +kernel
  obtain ⟨a, ha, hhandled⟩ := (Option.any_eq_true _ _).mp hrun
  have hm := Prod.mk.eta (p := a.onMessage plainTexts plainLattice
    (.publishArtifact (plainArtifact "b" 41000)) 41000 false false)
  rw [hhandled] at hm
  obtain ⟨r, hr, hversion, hrefines, -⟩ := context_refines_journal plainTexts plainLattice ha hm.symm
  exact ⟨a, _, ha, hm.symm, r, hr, hversion, hrefines rfl⟩

/-- A message whose replay fails leaves a restarted actor behind its journal. -/
theorem context_behind_journal : ∃ a a',
    exec (step plainTexts plainLattice) (start plainLattice fun _ => [])
      [.message (.publishArtifact (plainArtifact "a" 10)) 10 false false, .restart] = some a ∧
    a.onMessage plainTexts plainLattice (.queryArtifacts ⟨none, none, false⟩) 11 true false =
      (a', false) ∧
    a'.context.state.journalVersion ≠ (a'.store "lattice").length ∧
    ∃ r, replayLatticeState plainTexts "lattice" a'.store none = some r ∧
      ¬ Refines a'.context.state r := by
  have hrun : (exec (step plainTexts plainLattice) (start plainLattice fun _ => [])
      [.message (.publishArtifact (plainArtifact "a" 10)) 10 false false, .restart]).any
      (fun a => decide (a.context.state.journalVersion = 0 ∧ (a.store "lattice").length = 1 ∧
        a.context.object ∉ a.hydratedContexts)) = true := by
    decide +kernel
  obtain ⟨a, ha, hstate⟩ := (Option.any_eq_true _ _).mp hrun
  obtain ⟨hzero, hone, hhydrated⟩ := of_decide_eq_true hstate
  have hm : a.onMessage plainTexts plainLattice (.queryArtifacts ⟨none, none, false⟩) 11 true
      false = (a, false) := by
    unfold LatticeActor.onMessage LatticeActor.hydrate
    rw [if_neg hhydrated]
    rfl
  obtain ⟨r, hr⟩ := consistent_exec ha
  refine ⟨a, a, ha, hm, by rw [hzero, hone]; exact Nat.zero_ne_one, r, hr.replay, fun h => ?_⟩
  have hversion := h.journalVersion
  rw [hr.version, hzero] at hversion
  exact Nat.zero_ne_one (hversion.trans hone)

end LatticeActor

end ActorWeb.Lattice
