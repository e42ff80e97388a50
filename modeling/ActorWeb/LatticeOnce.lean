import ActorWeb.LatticeDelivery

namespace ActorWeb.Lattice

open Option hiding any_eq_true filter_filter filter_map mem_map mem_map_of_mem

open List Transition

section Matching

variable {t : Texts} {artifacts : List ArtifactRecord} {d : RegisteredDependency}

def Matched (t : Texts) (artifacts : List ArtifactRecord) (d : RegisteredDependency) : Prop :=
  ∀ matcher ∈ d.requires, ∃ artifact ∈ artifacts, matcherMatchesArtifact t artifact matcher = true

instance : Decidable (Matched t artifacts d) :=
  inferInstanceAs (Decidable (∀ matcher ∈ d.requires, ∃ artifact ∈ artifacts,
    matcherMatchesArtifact t artifact matcher = true))

theorem selectLatestMatchingArtifact_isSome {matcher : ArtifactMatcher} :
    (selectLatestMatchingArtifact t artifacts matcher).isSome = true ↔
      ∃ artifact ∈ artifacts, matcherMatchesArtifact t artifact matcher = true := by
  unfold selectLatestMatchingArtifact
  rw [isSome_head?, Ne, ← length_eq_zero_iff, (sortBy_perm _ _).length_eq,
    length_eq_zero_iff, filter_eq_nil_iff]
  simp

theorem evaluateDependencySatisfaction_isSome :
    (evaluateDependencySatisfaction t artifacts d).isSome = true ↔ Matched t artifacts d := by
  have hlength : (d.requires.filterMap (selectLatestMatchingArtifact t artifacts)).length =
      d.requires.length ↔ Matched t artifacts d := by
    unfold Matched
    simp only [← selectLatestMatchingArtifact_isSome]
    induction d.requires with
    | nil => simp
    | cons matcher matchers ih =>
      rw [forall_mem_cons, ← ih, filterMap_cons]
      have hle := length_filterMap_le (selectLatestMatchingArtifact t artifacts) matchers
      cases selectLatestMatchingArtifact t artifacts matcher with
      | none =>
        simp only [length_cons, isSome_none, Bool.false_eq_true, false_and,
          iff_false]
        omega
      | some artifact => simp
  unfold evaluateDependencySatisfaction
  rw [← hlength]
  dsimp only
  split
  case isTrue h => simp [h]
  case isFalse h => exact iff_of_true rfl (not_not.mp h)

theorem Matched.append (h : Matched t artifacts d) (artifact : ArtifactRecord) :
    Matched t (artifacts ++ [artifact]) d := fun matcher hm => by
  obtain ⟨a, ha, hmatch⟩ := h matcher hm
  exact ⟨a, mem_append_left _ ha, hmatch⟩

theorem matched_of_not_impacted {artifact : ArtifactRecord} {dependencies : List RegisteredDependency}
    (hd : d ∈ dependencies) (himpacted : d ∉ impactedDependencies dependencies artifact) :
    Matched t (artifacts ++ [artifact]) d ↔ Matched t artifacts d := by
  refine ⟨fun h matcher hm => ?_, fun h => h.append artifact⟩
  obtain ⟨a, ha, hmatch⟩ := h matcher hm
  obtain ha | ha := mem_append.mp ha
  · exact ⟨a, ha, hmatch⟩
  · rw [mem_singleton.mp ha] at hmatch
    have htype : artifact.type = matcher.type := by
      unfold matcherMatchesArtifact at hmatch
      rw [Bool.and_eq_true, Bool.and_eq_true] at hmatch
      exact of_decide_eq_true hmatch.1.1
    exact absurd (mem_filter.mpr ⟨hd, any_eq_true.mpr
      ⟨matcher, hm, decide_eq_true htype.symm⟩⟩) himpacted

end Matching

section Effects

variable {t : Texts} {now : Int} {s s' : LatticeState} {m : LatticeMessage}
  {result : LatticeReductionResult}

inductive Reduces (t : Texts) (s : LatticeState) :
    LatticeMessage → LatticeState → List LatticeEvent → Prop
  | silent (message : LatticeMessage)
      (nothing : ∀ dependency registeredAt, message ≠ .registerDependency dependency registeredAt) :
      Reduces t s message s []
  | checked (now : Int) :
      Reduces t s (.checkActivationTimeouts now)
        { s with activations := s.activations.map (redeliver s.timeoutMs now) }
        ((dueActivations s now).map (timedOut now) ++ (dueActivations s now).map satisfied)
  | registered {dependency : DependencyInput} {registeredAt : Option Int} {d : RegisteredDependency}
      (new : List LatticeActivationRecord) (keys : DeliveredKeys)
      (input : createRegisteredDependency t dependency = d)
      (delivered : Delivered t (resetDependencyActivationState (withDependency t s d) d.dependencyId)
        [d] (registeredAt.getD 0) new keys) :
      Reduces t s (.registerDependency dependency registeredAt)
        (delivery (resetDependencyActivationState (withDependency t s d) d.dependencyId)
          (registeredAt.getD 0) new keys).state
        (new.map satisfied)
  | withdrawn (dependencyId : String) :
      Reduces t s (.withdrawDependency dependencyId)
        (resetDependencyActivationState (withoutDependency s dependencyId) dependencyId) []
  | acknowledged {current : LatticeActivationRecord} (activationId : String)
      (acknowledgedAt : Option Int) (at' : Int)
      (found : s.activations.find? (fun a => a.activationId = activationId) = some current)
      (awaited : current.status ≠ .acknowledged) :
      Reduces t s (.ackActivation activationId acknowledgedAt)
        (withAcknowledgement s activationId at') []
  | published {input : ArtifactInput} {artifact : ArtifactRecord}
      (new : List LatticeActivationRecord) (keys : DeliveredKeys)
      (fresh : publishArtifact t s.artifacts input = some artifact)
      (delivered : Delivered t (withArtifact s artifact)
        (impactedDependencies s.dependencies artifact) artifact.publishedAt new keys) :
      Reduces t s (.publishArtifact input)
        (delivery (withArtifact s artifact) artifact.publishedAt new keys).state
        (.artifactPublished artifact :: new.map satisfied)

theorem reduceLatticeMessage_reduces (hs : Settled s) (h : reduceLatticeMessage t s m = some result) :
    Reduces t s m result.state result.emit := by
  cases m with
  | queryArtifacts query =>
    cases h
    exact .silent _ nofun
  | checkActivationTimeouts now =>
    obtain ⟨d, hd, rfl⟩ := map_eq_some_iff.mp h
    rw [evaluateActivationTimeouts_eq hs] at hd
    cases hd
    exact .checked now
  | registerDependency dependency registeredAt =>
    obtain ⟨d, hd, rfl⟩ := map_eq_some_iff.mp h
    obtain ⟨new, keys, hdelivered, rfl⟩ :=
      queueAndDeliver_spec ((hs.withDependency _).reset _) hd
    exact .registered new keys rfl hdelivered
  | withdrawDependency dependencyId =>
    cases h
    exact .withdrawn dependencyId
  | ackActivation activationId acknowledgedAt =>
    unfold reduceLatticeMessage at h
    cases hfind : s.activations.find? fun a => a.activationId = activationId with
    | none =>
      simp only [hfind] at h
      cases h
      exact .silent _ nofun
    | some current =>
      simp only [hfind] at h
      split at h
      case isTrue =>
        cases h
        exact .silent _ nofun
      case isFalse hawaited =>
        cases h
        exact .acknowledged _ _ _ hfind hawaited
  | publishArtifact input =>
    unfold reduceLatticeMessage at h
    cases hpublish : Lattice.publishArtifact t s.artifacts input with
    | none =>
      simp only [hpublish] at h
      cases h
      exact .silent _ nofun
    | some artifact =>
      simp only [hpublish] at h
      obtain ⟨d, hd, rfl⟩ := map_eq_some_iff.mp h
      obtain ⟨new, keys, hdelivered, rfl⟩ := queueAndDeliver_spec (hs.withArtifact artifact) hd
      exact .published new keys hpublish hdelivered

theorem Reduces.settled (hs : Settled s) {emit : List LatticeEvent} (h : Reduces t s m s' emit) :
    Settled s' := by
  cases h with
  | silent => exact hs
  | checked now => exact hs.redelivered now
  | registered new keys input delivered =>
    exact delivered.settled ((hs.withDependency _).reset _)
  | withdrawn dependencyId => exact (hs.withoutDependency dependencyId).reset dependencyId
  | acknowledged activationId acknowledgedAt at' => exact hs.acknowledged activationId at'
  | published new keys fresh delivered => exact delivered.settled (hs.withArtifact _)

end Effects

section Queues

variable {t : Texts} {now : Int} {s s' : LatticeState} {d : RegisteredDependency}
  {activations new : List LatticeActivationRecord} {deps : List RegisteredDependency}

def activationsOf (activations : List LatticeActivationRecord) (dependencyId : String) :
    List LatticeActivationRecord :=
  activations.filter fun activation => activation.dependencyId = dependencyId

theorem activationsOf_append (dependencyId : String) :
    activationsOf (activations ++ new) dependencyId =
      activationsOf activations dependencyId ++ activationsOf new dependencyId :=
  filter_append ..

theorem activationsOf_eq_nil {dependencyId : String} : activationsOf activations dependencyId = [] ↔
      ∀ a ∈ activations, a.dependencyId ≠ dependencyId := by
  simp [activationsOf]

theorem activationsOf_map {f : LatticeActivationRecord → LatticeActivationRecord}
    (hf : ∀ a, (f a).dependencyId = a.dependencyId) (dependencyId : String) :
    activationsOf (activations.map f) dependencyId =
      (activationsOf activations dependencyId).map f := by
  unfold activationsOf
  rw [filter_map]
  refine congrArg (List.map f) (filter_congr fun a _ => ?_)
  rw [Function.comp_apply, hf]

theorem activationsOf_filter (dependencyId other : String) :
    activationsOf (activations.filter fun a => a.dependencyId ≠ dependencyId) other =
      if other = dependencyId then [] else activationsOf activations other := by
  unfold activationsOf
  rw [filter_filter]
  split
  case isTrue h =>
    rw [filter_eq_nil_iff]
    intro a _
    simp [h]
  case isFalse h =>
    refine filter_congr fun a _ => ?_
    by_cases ha : a.dependencyId = other
    · simp [ha, h]
    · simp [ha]

theorem toQueue_other (hnamed : ∀ a ∈ new, a.activationId =
      activationIdFor a.dependencyId a.satisfactionKey)
    (hother : ∀ a ∈ new, a.dependencyId ≠ d.dependencyId) :
    toQueue t now (withActivations s new) d = toQueue t now s d := by
  have hblocked : ∀ key, blocked (s.activations ++ new) (activationIdFor d.dependencyId key) =
      blocked s.activations (activationIdFor d.dependencyId key) := by
    intro key
    have hnone : new.find? (fun other => other.activationId = activationIdFor d.dependencyId key) =
        none := by
      rw [find?_eq_none]
      intro a ha hid
      rw [decide_eq_true_eq, hnamed a ha] at hid
      exact hother a ha (activationIdFor_inj hid).1
    unfold blocked
    rw [find?_append, hnone, or_none]
  unfold toQueue withActivations
  simp only [hblocked]

theorem toQueue_named {activation : LatticeActivationRecord}
    (h : toQueue t now s d = some (some activation)) : activation.dependencyId = d.dependencyId ∧
      activation.activationId = activationIdFor activation.dependencyId activation.satisfactionKey := by
  obtain ⟨satisfaction, -, rfl, -⟩ := toQueue_eq_some h
  exact ⟨rfl, rfl⟩

theorem queueSatisfactionActivations_each
    (hunique : (deps.map RegisteredDependency.dependencyId).Nodup)
    (hq : queueSatisfactionActivations t s deps now = some s') : ∃ new, s' = withActivations s new ∧
      (∀ a ∈ new, ∃ d ∈ deps, a.dependencyId = d.dependencyId) ∧
      ∀ d ∈ deps, ∃ queued, toQueue t now s d = some queued ∧
        activationsOf new d.dependencyId = queued.toList := by
  induction deps generalizing s with
  | nil =>
    exact ⟨[], (some.inj hq).symm.trans (withActivations_nil s).symm, nofun, nofun⟩
  | cons d deps ih =>
    obtain ⟨s₁, hfirst, hrest⟩ := bind_eq_some_iff.mp (foldlM_cons.symm.trans hq)
    rw [queueSatisfactionActivation_eq] at hfirst
    obtain ⟨queued, hqueued, rfl⟩ := map_eq_some_iff.mp hfirst
    rw [map_cons, nodup_cons] at hunique
    obtain ⟨hfresh, hunique⟩ := hunique
    obtain ⟨new, rfl, hnew, heach⟩ := ih hunique hrest
    have hself : ∀ a ∈ queued.toList, a.dependencyId = d.dependencyId ∧ a.activationId =
        activationIdFor a.dependencyId a.satisfactionKey := by
      intro a ha
      obtain rfl := mem_toList.mp ha
      exact toQueue_named hqueued
    refine ⟨queued.toList ++ new, withActivations_append .., ?_, ?_⟩
    · intro a ha
      obtain ha | ha := mem_append.mp ha
      · exact ⟨d, mem_cons_self, (hself a ha).1⟩
      · obtain ⟨d', hd', hid⟩ := hnew a ha
        exact ⟨d', mem_cons_of_mem _ hd', hid⟩
    · intro d' hd'
      rw [activationsOf_append]
      obtain rfl | hd' := mem_cons.mp hd'
      · refine ⟨queued, hqueued, ?_⟩
        have hall : activationsOf queued.toList d'.dependencyId = queued.toList :=
          filter_eq_self.mpr fun a ha => decide_eq_true (hself a ha).1
        have hnone : activationsOf new d'.dependencyId = [] := by
          refine activationsOf_eq_nil.mpr fun a ha hid => ?_
          obtain ⟨d, hd, hid'⟩ := hnew a ha
          exact hfresh (mem_map.mpr ⟨d, hd, hid'.symm.trans hid⟩)
        rw [hall, hnone, append_nil]
      · have hne : d.dependencyId ≠ d'.dependencyId := fun hid =>
          hfresh (mem_map.mpr ⟨d', hd', hid.symm⟩)
        obtain ⟨queued', hqueued', heq⟩ := heach d' hd'
        rw [toQueue_other (fun a ha => (hself a ha).2) fun a ha => (hself a ha).1 ▸ hne] at hqueued'
        have hnone : activationsOf queued.toList d'.dependencyId = [] :=
          activationsOf_eq_nil.mpr fun a ha => (hself a ha).1 ▸ hne
        exact ⟨queued', hqueued', by rw [hnone, nil_append, heq]⟩

theorem Delivered.each {keys : DeliveredKeys} (h : Delivered t s deps now new keys)
    (hunique : (deps.map RegisteredDependency.dependencyId).Nodup) :
    (∀ a ∈ new, ∃ d ∈ deps, a.dependencyId = d.dependencyId) ∧
      ∀ d ∈ deps, ∃ queued, toQueue t now s d = some queued ∧
        activationsOf new d.dependencyId = queued.toList := by
  obtain ⟨new', hsame, hnew, heach⟩ := queueSatisfactionActivations_each hunique h.queue
  obtain rfl : new = new' := append_cancel_left (congrArg LatticeState.activations hsame)
  exact ⟨hnew, heach⟩

end Queues

section Once

/-- A dependency whose name every object inherits, with a value that `once` takes for a list of
delivered keys. -/
def Deaf (d : RegisteredDependency) : Prop :=
  d.mode = .once ∧ d.dependencyId ∈ objectPrototype ∧ d.dependencyId ∉ nullaryPrototype

instance (d : RegisteredDependency) : Decidable (Deaf d) := inferInstanceAs (Decidable (_ ∧ _ ∧ _))

variable {t : Texts} {now : Int} {s s' : LatticeState} {d : RegisteredDependency}
  {queued : Option LatticeActivationRecord}

theorem toQueue_of_not_matched (h : ¬ Matched t s.artifacts d)
    (hq : toQueue t now s d = some queued) : queued = none := by
  rw [← evaluateDependencySatisfaction_isSome, not_isSome_iff_eq_none] at h
  unfold toQueue at hq
  rw [h] at hq
  exact (some.inj hq).symm

theorem toQueue_of_recorded (honce : d.mode = .once) {a : LatticeActivationRecord}
    (hrecorded : Recorded s.deliveredSatisfactionKeys a) (hid : a.dependencyId = d.dependencyId)
    (hq : toQueue t now s d = some queued) : queued = none := by
  cases queued with
  | none => rfl
  | some activation =>
    obtain ⟨satisfaction, -, -, hemits, -⟩ := toQueue_eq_some hq
    obtain ⟨delivered, hget, hmem⟩ := hrecorded
    unfold shouldEmitSatisfaction at hemits
    rw [OrderedMap.property_of_get (hid ▸ hget), honce] at hemits
    simp [ne_nil_of_mem hmem] at hemits

theorem toQueue_of_matched (hmatched : Matched t s.artifacts d) (hdeaf : ¬ Deaf d)
    (hkeys : s.deliveredSatisfactionKeys.get d.dependencyId = none)
    (hnamed : ∀ a ∈ s.activations, a.activationId =
      activationIdFor a.dependencyId a.satisfactionKey)
    (hnone : activationsOf s.activations d.dependencyId = [])
    (hq : toQueue t now s d = some queued) : queued ≠ none := by
  obtain ⟨satisfaction, hsat⟩ := isSome_iff_exists.mp
    (evaluateDependencySatisfaction_isSome.mpr hmatched)
  have hblocked : blocked s.activations
      (activationIdFor d.dependencyId satisfaction.satisfactionKey) = false := by
    unfold blocked
    rw [find?_eq_none.mpr, any_none]
    intro a ha hid
    rw [decide_eq_true_eq, hnamed a ha] at hid
    exact activationsOf_eq_nil.mp hnone a ha (activationIdFor_inj hid).1
  unfold toQueue at hq
  rw [hsat] at hq
  obtain ⟨emits, hemits, rfl⟩ := map_eq_some_iff.mp hq
  have htrue : emits = true := by
    unfold shouldEmitSatisfaction at hemits
    rw [OrderedMap.property_of_get_none hkeys] at hemits
    by_cases hinherited : d.dependencyId ∈ objectPrototype
    · rw [if_pos hinherited] at hemits
      cases hmode : d.mode with
      | once =>
        rw [hmode] at hemits
        have hnullary : d.dependencyId ∈ nullaryPrototype :=
          Decidable.not_not.mp fun hn => hdeaf ⟨hmode, hinherited, hn⟩
        exact (some.inj hemits).symm.trans (decide_eq_true hnullary)
      | everyVersion => rw [hmode] at hemits; cases hemits
    · rw [if_neg hinherited] at hemits
      exact (some.inj hemits).symm
  rw [if_neg (by rw [htrue, hblocked]; exact not_or.mpr ⟨Bool.noConfusion, Bool.noConfusion⟩)]
  exact nofun

/-- The activations of every registered dependency: there are some once it is matched, and no more
than one in mode once. -/
structure Held (t : Texts) (s : LatticeState) : Prop where
  settled : Settled s
  unique : (s.dependencies.map RegisteredDependency.dependencyId).Nodup
  own : ∀ dependencyId, activationsOf s.activations dependencyId = [] →
    s.deliveredSatisfactionKeys.get dependencyId = none
  matched : ∀ d ∈ s.dependencies,
    (Matched t s.artifacts d ↔ activationsOf s.activations d.dependencyId ≠ [])
  single : ∀ d ∈ s.dependencies, d.mode = .once →
    (activationsOf s.activations d.dependencyId).length ≤ 1

/-- The state in which the dependencies that may be newly matched are queued. -/
structure Ready (t : Texts) (s : LatticeState) (deps : List RegisteredDependency) : Prop where
  settled : Settled s
  unique : (s.dependencies.map RegisteredDependency.dependencyId).Nodup
  own : ∀ dependencyId, activationsOf s.activations dependencyId = [] →
    s.deliveredSatisfactionKeys.get dependencyId = none
  registered : deps.Sublist s.dependencies
  active : ∀ d ∈ s.dependencies, activationsOf s.activations d.dependencyId ≠ [] →
    Matched t s.artifacts d
  single : ∀ d ∈ s.dependencies, d.mode = .once →
    (activationsOf s.activations d.dependencyId).length ≤ 1
  due : ∀ d ∈ s.dependencies, Matched t s.artifacts d →
    activationsOf s.activations d.dependencyId = [] → d ∈ deps ∧ ¬ Deaf d

variable {deps : List RegisteredDependency} {new : List LatticeActivationRecord}
  {keys : DeliveredKeys}

theorem Ready.activationsOf_new (h : Ready t s deps) (hd : Delivered t s deps now new keys)
    (hmem : d ∈ s.dependencies) : d ∈ deps ∧ (∃ queued, toQueue t now s d = some queued ∧
        activationsOf new d.dependencyId = queued.toList) ∨
      d ∉ deps ∧ activationsOf new d.dependencyId = [] := by
  obtain ⟨hnew, heach⟩ := hd.each ((h.registered.map _).nodup h.unique)
  by_cases hdeps : d ∈ deps
  · exact .inl ⟨hdeps, heach d hdeps⟩
  · refine .inr ⟨hdeps, activationsOf_eq_nil.mpr fun a ha hid => hdeps ?_⟩
    obtain ⟨d', hd', hid'⟩ := hnew a ha
    rwa [← inj_on_of_nodup_map h.unique (h.registered.subset hd') hmem (hid'.symm.trans hid)]

theorem Ready.held (h : Ready t s deps) (hd : Delivered t s deps now new keys) :
    Held t (delivery s now new keys).state := by
  have hactivations : ∀ dependencyId,
      activationsOf (delivery s now new keys).state.activations dependencyId =
        activationsOf s.activations dependencyId ++
          (activationsOf new dependencyId).map (deliver s.timeoutMs now) := by
    intro dependencyId
    refine (activationsOf_append dependencyId).trans ?_
    rw [activationsOf_map (f := deliver s.timeoutMs now) fun _ => rfl]
  refine ⟨hd.settled h.settled, h.unique, ?_, ?_, ?_⟩
  · intro dependencyId hnone
    rw [hactivations, append_eq_nil_iff, map_eq_nil_iff] at hnone
    obtain ⟨-, -, hother⟩ := recordAll_spec hd.record
    exact (hother dependencyId (activationsOf_eq_nil.mp hnone.2)).trans (h.own dependencyId hnone.1)
  · intro d hmem
    rw [hactivations, Ne, append_eq_nil_iff, map_eq_nil_iff]
    change Matched t s.artifacts d ↔ _
    constructor
    · rintro hmatched ⟨hold, hnew⟩
      obtain ⟨hdeps, hdeaf⟩ := h.due d hmem hmatched hold
      obtain ⟨-, queued, hqueued, heq⟩ | ⟨hnot, -⟩ := h.activationsOf_new hd hmem
      · have hsome := toQueue_of_matched hmatched hdeaf (h.own _ hold) h.settled.named hold hqueued
        rw [hnew] at heq
        exact hsome (toList_eq_nil_iff.mp heq.symm)
      · exact hnot hdeps
    · intro hsome
      refine Decidable.by_contra fun hmatched => hsome ⟨?_, ?_⟩
      · exact Decidable.by_contra fun hold => hmatched (h.active d hmem hold)
      · obtain ⟨-, queued, hqueued, heq⟩ | ⟨-, hnone⟩ := h.activationsOf_new hd hmem
        · rw [heq, toQueue_of_not_matched hmatched hqueued, toList_none]
        · exact hnone
  · intro d hmem honce
    rw [hactivations, length_append, length_map]
    have hold := h.single d hmem honce
    obtain ⟨-, queued, hqueued, heq⟩ | ⟨-, hnone⟩ := h.activationsOf_new hd hmem
    · rw [heq]
      have hqueuedLength : queued.toList.length ≤ 1 := by cases queued <;> simp
      cases hactive : activationsOf s.activations d.dependencyId with
      | nil => rw [length_nil, Nat.zero_add]; exact hqueuedLength
      | cons a as =>
        have ha : a ∈ activationsOf s.activations d.dependencyId :=
          hactive ▸ mem_cons_self
        obtain ⟨ha, hid⟩ := mem_filter.mp ha
        rw [toQueue_of_recorded honce (h.settled.recorded a ha) (of_decide_eq_true hid) hqueued,
          ← hactive]
        exact hold
    · rw [hnone]
      exact hold

end Once

section Steps

variable {t : Texts} {s s' : LatticeState} {d : RegisteredDependency} {m : LatticeMessage}
  {emit : List LatticeEvent}

/-- A message that does not register again what already has an activation, and satisfies no deaf
dependency. -/
def Allowed (t : Texts) (s : LatticeState) : LatticeMessage → Prop
  | .registerDependency dependency _ =>
    ¬ (createRegisteredDependency t dependency ∈ s.dependencies ∧
      activationsOf s.activations (createRegisteredDependency t dependency).dependencyId ≠ []) ∧
    ¬ (Deaf (createRegisteredDependency t dependency) ∧
      Matched t s.artifacts (createRegisteredDependency t dependency))
  | .publishArtifact input =>
    ∀ artifact ∈ publishArtifact t s.artifacts input, ∀ d ∈ s.dependencies,
      ¬ (Deaf d ∧ Matched t (s.artifacts ++ [artifact]) d)
  | _ => True

instance : (m : LatticeMessage) → Decidable (Allowed t s m)
  | .registerDependency _ _ => inferInstanceAs (Decidable (¬ _ ∧ ¬ _))
  | .publishArtifact input => inferInstanceAs (Decidable (∀ artifact ∈ publishArtifact t s.artifacts
      input, ∀ d ∈ s.dependencies, ¬ (Deaf d ∧ Matched t (s.artifacts ++ [artifact]) d)))
  | .withdrawDependency _ => .isTrue trivial
  | .ackActivation _ _ => .isTrue trivial
  | .queryArtifacts _ => .isTrue trivial
  | .checkActivationTimeouts _ => .isTrue trivial

theorem mem_withDependency {other : RegisteredDependency} :
    other ∈ (withDependency t s d).dependencies ↔
      other ∈ s.dependencies ∧ other.dependencyId ≠ d.dependencyId ∨ other = d := by
  unfold withDependency
  rw [(sortBy_perm _ _).mem_iff, mem_append, mem_filter, decide_eq_true_eq,
    mem_singleton]

theorem unique_withDependency (h : (s.dependencies.map RegisteredDependency.dependencyId).Nodup) :
    ((withDependency t s d).dependencies.map RegisteredDependency.dependencyId).Nodup := by
  unfold withDependency
  rw [((sortBy_perm _ _).map _).nodup_iff, map_append, nodup_append]
  refine ⟨(filter_sublist.map _).nodup h, nodup_singleton _, ?_⟩
  intro id hid id' hid' heq
  obtain ⟨other, hother, rfl⟩ := mem_map.mp hid
  rw [map_singleton, mem_singleton] at hid'
  exact of_decide_eq_true (mem_filter.mp hother).2 (heq.trans hid')

theorem activationsOf_reset (dependencyId other : String) :
    activationsOf (resetDependencyActivationState s dependencyId).activations other =
      if other = dependencyId then [] else activationsOf s.activations other :=
  activationsOf_filter dependencyId other

theorem own_reset (h : ∀ other, activationsOf s.activations other = [] →
    s.deliveredSatisfactionKeys.get other = none) (dependencyId other : String)
    (hnone : activationsOf (resetDependencyActivationState s dependencyId).activations other = []) :
    (resetDependencyActivationState s dependencyId).deliveredSatisfactionKeys.get other = none := by
  refine (OrderedMap.get_delete _ dependencyId other).trans ?_
  by_cases hid : other = dependencyId
  · rw [if_pos hid]
  · rw [if_neg hid]
    rw [activationsOf_reset, if_neg hid] at hnone
    exact h other hnone

theorem Held.registered (h : Held t s) (hdeaf : ¬ (Deaf d ∧ Matched t s.artifacts d)) :
    Ready t (resetDependencyActivationState (withDependency t s d) d.dependencyId) [d] where
  settled := (h.settled.withDependency d).reset d.dependencyId
  unique := unique_withDependency h.unique
  own := own_reset (s := withDependency t s d) h.own d.dependencyId
  registered := singleton_sublist.mpr (mem_withDependency.mpr (.inr rfl))
  active other hother hactive := by
    rw [activationsOf_reset] at hactive
    obtain ⟨hother, hid⟩ | rfl := mem_withDependency.mp hother
    · rw [if_neg hid] at hactive
      exact (h.matched other hother).mpr hactive
    · rw [if_pos rfl] at hactive
      exact absurd rfl hactive
  single other hother honce := by
    rw [activationsOf_reset]
    obtain ⟨hother, hid⟩ | rfl := mem_withDependency.mp hother
    · rw [if_neg hid]
      exact h.single other hother honce
    · rw [if_pos rfl]
      exact Nat.zero_le 1
  due other hother hmatched hnone := by
    rw [activationsOf_reset] at hnone
    obtain ⟨hother, hid⟩ | rfl := mem_withDependency.mp hother
    · rw [if_neg hid] at hnone
      exact absurd hnone ((h.matched other hother).mp hmatched)
    · exact ⟨mem_singleton.mpr rfl, fun hd => hdeaf ⟨hd, hmatched⟩⟩

theorem Held.published (h : Held t s) {artifact : ArtifactRecord}
    (hdeaf : ∀ d ∈ s.dependencies, ¬ (Deaf d ∧ Matched t (s.artifacts ++ [artifact]) d)) :
    Ready t (withArtifact s artifact) (impactedDependencies s.dependencies artifact) where
  settled := h.settled.withArtifact artifact
  unique := h.unique
  own := h.own
  registered := filter_sublist
  active d hd hactive := ((h.matched d hd).mpr hactive).append artifact
  single := h.single
  due d hd hmatched hnone := by
    refine ⟨Decidable.by_contra fun himpacted => ?_, fun hd' => hdeaf d hd ⟨hd', hmatched⟩⟩
    have hbefore := (matched_of_not_impacted hd himpacted).mp hmatched
    exact (h.matched d hd).mp hbefore hnone

theorem Held.withdrawn (h : Held t s) (dependencyId : String) :
    Held t (resetDependencyActivationState (withoutDependency s dependencyId) dependencyId) where
  settled := (h.settled.withoutDependency dependencyId).reset dependencyId
  unique := (filter_sublist.map _).nodup h.unique
  own := own_reset (s := withoutDependency s dependencyId) h.own dependencyId
  matched d hd := by
    obtain ⟨hd, hid⟩ := mem_filter.mp hd
    rw [activationsOf_reset, if_neg (of_decide_eq_true hid)]
    exact h.matched d hd
  single d hd honce := by
    obtain ⟨hd, hid⟩ := mem_filter.mp hd
    rw [activationsOf_reset, if_neg (of_decide_eq_true hid)]
    exact h.single d hd honce

theorem Held.mapped (h : Held t s) {f : LatticeActivationRecord → LatticeActivationRecord}
    (hf : ∀ a, (f a).dependencyId = a.dependencyId)
    (hs : Settled { s with activations := s.activations.map f }) :
    Held t { s with activations := s.activations.map f } where
  settled := hs
  unique := h.unique
  own dependencyId hnone := by
    rw [activationsOf_map hf, map_eq_nil_iff] at hnone
    exact h.own dependencyId hnone
  matched d hd := by
    rw [activationsOf_map hf, Ne, map_eq_nil_iff]
    exact h.matched d hd
  single d hd honce := by
    rw [activationsOf_map hf, length_map]
    exact h.single d hd honce

theorem redeliver_dependencyId (timeoutMs now : Int) (a : LatticeActivationRecord) :
    (redeliver timeoutMs now a).dependencyId = a.dependencyId := by
  unfold redeliver
  split <;> rfl

theorem acknowledge_dependencyId (activationId : String) (at' : Int) (a : LatticeActivationRecord) :
    (acknowledge activationId at' a).dependencyId = a.dependencyId := by
  unfold acknowledge
  split <;> rfl

theorem Held.reduces (h : Held t s) (hallowed : Allowed t s m) (hr : Reduces t s m s' emit) :
    Held t s' := by
  cases hr with
  | silent => exact h
  | checked now => exact h.mapped (redeliver_dependencyId s.timeoutMs now) (h.settled.redelivered now)
  | registered new keys input delivered =>
    obtain rfl := input
    exact (h.registered hallowed.2).held delivered
  | withdrawn dependencyId => exact h.withdrawn dependencyId
  | acknowledged activationId acknowledgedAt at' =>
    exact h.mapped (acknowledge_dependencyId activationId at')
      (h.settled.acknowledged activationId at')
  | published new keys fresh delivered =>
    exact (h.published (hallowed _ fresh)).held delivered

theorem Held.reregistered (h : Held t s) {dependency : DependencyInput} {registeredAt : Option Int}
    (hmem : createRegisteredDependency t dependency ∈ s.dependencies)
    (hallowed : Allowed t s (.registerDependency dependency registeredAt))
    (hr : Reduces t s (.registerDependency dependency registeredAt) s' emit) :
    emit = [] ∧ s'.activations = s.activations := by
  cases hr with
  | silent _ nothing => exact absurd rfl (nothing dependency registeredAt)
  | registered new keys input delivered =>
    obtain rfl := input
    have hnone : activationsOf s.activations
        (createRegisteredDependency t dependency).dependencyId = [] :=
      Decidable.by_contra fun hsome => hallowed.1 ⟨hmem, hsome⟩
    have hunmatched : ¬ Matched t s.artifacts (createRegisteredDependency t dependency) :=
      fun hmatched => (h.matched _ hmem).mp hmatched hnone
    obtain ⟨hnew, heach⟩ := delivered.each (nodup_singleton _)
    obtain ⟨queued, hqueued, heq⟩ := heach _ (mem_singleton.mpr rfl)
    obtain rfl : queued = none := by
      refine toQueue_of_not_matched ?_ hqueued
      exact hunmatched
    have hempty : new = [] := by
      refine eq_nil_iff_forall_not_mem.mpr fun a ha => ?_
      obtain ⟨d, hd, hid⟩ := hnew a ha
      rw [mem_singleton.mp hd] at hid
      exact activationsOf_eq_nil.mp heq a ha hid
    subst hempty
    refine ⟨rfl, (append_nil _).trans (filter_eq_self.mpr fun a ha => ?_)⟩
    exact decide_eq_true (activationsOf_eq_nil.mp hnone a ha)

end Steps

section Messages

variable {t : Texts} {s s' : LatticeState} {d : RegisteredDependency} {m : LatticeMessage}
  {emit : List LatticeEvent} {a a' a'' : LatticeActivationRecord}

/-- The message takes the dependency away, or registers another one under its id. -/
def Replaces (t : Texts) (d : RegisteredDependency) : LatticeMessage → Prop
  | .withdrawDependency dependencyId => dependencyId = d.dependencyId
  | .registerDependency dependency _ =>
    (createRegisteredDependency t dependency).dependencyId = d.dependencyId ∧
      createRegisteredDependency t dependency ≠ d
  | _ => False

instance : (m : LatticeMessage) → Decidable (Replaces t d m)
  | .withdrawDependency _ => inferInstanceAs (Decidable (_ = _))
  | .registerDependency _ _ => inferInstanceAs (Decidable (_ ∧ _))
  | .publishArtifact _ => .isFalse id
  | .ackActivation _ _ => .isFalse id
  | .queryArtifacts _ => .isFalse id
  | .checkActivationTimeouts _ => .isFalse id

def LatticeEvent.Announces (dependencyId : String) : LatticeEvent → Prop
  | .dependencySatisfied _ satisfiedId _ _ _ _ => satisfiedId = dependencyId
  | _ => False

/-- The activation is the same one, and an acknowledged one has not changed at all. -/
structure Kept (a a' : LatticeActivationRecord) : Prop where
  same : a'.activationId = a.activationId ∧ a'.satisfactionKey = a.satisfactionKey ∧
    a'.artifacts = a.artifacts ∧ a'.createdAt = a.createdAt
  acknowledged : a.status = .acknowledged → a' = a

theorem Kept.refl (a : LatticeActivationRecord) : Kept a a := ⟨⟨rfl, rfl, rfl, rfl⟩, fun _ => rfl⟩

theorem Kept.trans (h : Kept a a') (h' : Kept a' a'') : Kept a a'' where
  same := ⟨h'.same.1.trans h.same.1, h'.same.2.1.trans h.same.2.1,
    h'.same.2.2.1.trans h.same.2.2.1, h'.same.2.2.2.trans h.same.2.2.2⟩
  acknowledged hack := by
    have heq := h.acknowledged hack
    exact (h'.acknowledged (heq ▸ hack)).trans heq

theorem kept_redeliver (timeoutMs now : Int) (a : LatticeActivationRecord) :
    Kept a (redeliver timeoutMs now a) := by
  obtain h | ⟨hstatus, h⟩ := redeliver_cases timeoutMs now a
  · rw [h]
    exact .refl a
  · rw [h]
    exact ⟨⟨rfl, rfl, rfl, rfl⟩, fun hack => absurd (hstatus.symm.trans hack) nofun⟩

theorem kept_acknowledge {activationId : String} (at' : Int)
    (h : a.activationId = activationId → a.status ≠ .acknowledged) :
    Kept a (acknowledge activationId at' a) := by
  unfold acknowledge
  split
  case isTrue hid => exact ⟨⟨rfl, rfl, rfl, rfl⟩, fun hack => absurd hack (h hid)⟩
  case isFalse => exact .refl a

/-- What a message does for a registered dependency that it does not replace. -/
structure Holds (s s' : LatticeState) (emit : List LatticeEvent) (d : RegisteredDependency) :
    Prop where
  registered : d ∈ s'.dependencies
  kept : ∀ a ∈ activationsOf s.activations d.dependencyId,
    ∃ a' ∈ activationsOf s'.activations d.dependencyId, Kept a a'
  quiet : d.mode = .once → ∀ a ∈ activationsOf s.activations d.dependencyId,
    a.status = .acknowledged → ∀ e ∈ emit, ¬ e.Announces d.dependencyId

theorem Holds.refl (hd : d ∈ s.dependencies) : Holds s s [] d where
  registered := hd
  kept a ha := ⟨a, ha, .refl a⟩
  quiet _ _ _ _ _ he := absurd he not_mem_nil

theorem Holds.trans {s s₁ s₂ : LatticeState} {emit emit' : List LatticeEvent}
    (h : Holds s s₁ emit d) (h' : Holds s₁ s₂ emit' d) : Holds s s₂ (emit ++ emit') d where
  registered := h'.registered
  kept a ha := by
    obtain ⟨a', ha', hkept⟩ := h.kept a ha
    obtain ⟨a'', ha'', hkept'⟩ := h'.kept a' ha'
    exact ⟨a'', ha'', hkept.trans hkept'⟩
  quiet honce a ha hack e he := by
    obtain he | he := mem_append.mp he
    · exact h.quiet honce a ha hack e he
    · obtain ⟨a', ha', hkept⟩ := h.kept a ha
      rw [hkept.acknowledged hack] at ha'
      exact h'.quiet honce a ha' hack e he

variable {deps : List RegisteredDependency} {new : List LatticeActivationRecord}
  {keys : DeliveredKeys} {now : Int}

theorem announces_satisfied {e : LatticeEvent} (he : e ∈ new.map satisfied)
    (h : e.Announces d.dependencyId) : activationsOf new d.dependencyId ≠ [] := by
  obtain ⟨a, ha, rfl⟩ := mem_map.mp he
  exact fun hnone => activationsOf_eq_nil.mp hnone a ha h

theorem Ready.holds (h : Ready t s deps) (hd : Delivered t s deps now new keys)
    (hmem : d ∈ s.dependencies) :
    Holds s (delivery s now new keys).state (delivery s now new keys).emit d where
  registered := hmem
  kept a ha := ⟨a, by
    refine (activationsOf_append d.dependencyId).symm ▸ ?_
    exact mem_append_left _ ha, .refl a⟩
  quiet honce a ha _ e he hannounces := by
    refine announces_satisfied he hannounces ?_
    obtain ⟨ha, hid⟩ := mem_filter.mp ha
    obtain ⟨-, queued, hqueued, heq⟩ | ⟨-, hnone⟩ := h.activationsOf_new hd hmem
    · rw [heq, toQueue_of_recorded honce (h.settled.recorded a ha) (of_decide_eq_true hid) hqueued,
        toList_none]
    · exact hnone

theorem holds_map {f : LatticeActivationRecord → LatticeActivationRecord}
    (hf : ∀ a, (f a).dependencyId = a.dependencyId)
    (hkept : ∀ a ∈ s.activations, Kept a (f a)) (hd : d ∈ s.dependencies)
    (hquiet : d.mode = .once → ∀ a ∈ activationsOf s.activations d.dependencyId,
      a.status = .acknowledged → ∀ e ∈ emit, ¬ e.Announces d.dependencyId) :
    Holds s { s with activations := s.activations.map f } emit d where
  registered := hd
  kept a ha := by
    refine ⟨f a, ?_, hkept a (mem_of_mem_filter ha)⟩
    rw [activationsOf_map hf]
    exact mem_map_of_mem ha
  quiet := hquiet

theorem Holds.of_reset {base : LatticeState} (h : Holds base s' emit d)
    (hactivations : activationsOf base.activations d.dependencyId =
      activationsOf s.activations d.dependencyId) : Holds s s' emit d where
  registered := h.registered
  kept := hactivations ▸ h.kept
  quiet := hactivations ▸ h.quiet

theorem Held.holds (h : Held t s) (hallowed : Allowed t s m) (hr : Reduces t s m s' emit)
    (hd : d ∈ s.dependencies) (hreplaces : ¬ Replaces t d m) : Holds s s' emit d := by
  cases hr with
  | silent => exact .refl hd
  | checked now =>
    refine holds_map (redeliver_dependencyId s.timeoutMs now)
      (fun a _ => kept_redeliver s.timeoutMs now a) hd fun honce a ha hack e he hannounces => ?_
    obtain he | he := mem_append.mp he
    · obtain ⟨b, -, rfl⟩ := mem_map.mp he
      exact hannounces
    -- the one activation of the dependency is acknowledged, so none is due
    · obtain ⟨b, hb, rfl⟩ := mem_map.mp he
      obtain ⟨hb, hdue⟩ := mem_filter.mp hb
      have hb : b ∈ activationsOf s.activations d.dependencyId :=
        mem_filter.mpr ⟨hb, decide_eq_true hannounces⟩
      have hsame : b = a := by
        obtain ⟨c, hc⟩ := length_eq_one_iff.mp (Nat.le_antisymm (h.single d hd honce)
          (length_pos_of_mem ha))
        rw [hc, mem_singleton] at ha hb
        exact hb.trans ha.symm
      rw [hsame, hack] at hdue
      exact absurd hdue Bool.false_ne_true
  | @registered dependency registeredAt d₀ new keys input delivered =>
    obtain rfl := input
    have hready := h.registered hallowed.2
    by_cases hid : d.dependencyId = (createRegisteredDependency t dependency).dependencyId
    · obtain rfl : createRegisteredDependency t dependency = d :=
        Decidable.by_contra fun hne => hreplaces ⟨hid.symm, hne⟩
      have hnone : activationsOf s.activations
          (createRegisteredDependency t dependency).dependencyId = [] :=
        Decidable.by_contra fun hsome => hallowed.1 ⟨hd, hsome⟩
      refine (hready.holds delivered (mem_withDependency.mpr (.inr rfl))).of_reset ?_
      rw [activationsOf_reset, if_pos rfl, hnone]
    · refine (hready.holds delivered (mem_withDependency.mpr (.inl ⟨hd, hid⟩))).of_reset ?_
      rw [activationsOf_reset, if_neg hid]
      rfl
  | withdrawn dependencyId =>
    have hid : d.dependencyId ≠ dependencyId := fun heq => hreplaces heq.symm
    refine Holds.of_reset (.refl (mem_filter.mpr ⟨hd, decide_eq_true hid⟩)) ?_
    rw [activationsOf_reset, if_neg hid]
    rfl
  | acknowledged activationId acknowledgedAt at' found awaited =>
    refine holds_map (acknowledge_dependencyId activationId at') (fun a ha => ?_) hd
      fun _ _ _ _ _ he => absurd he not_mem_nil
    refine kept_acknowledge at' fun hid => ?_
    have hcurrent := find?_some found
    rw [decide_eq_true_eq] at hcurrent
    rw [inj_on_of_nodup_map h.settled.nodup ha (mem_of_find?_eq_some found)
      (hid.trans hcurrent.symm)]
    exact awaited
  | published new keys fresh delivered =>
    have hholds := (h.published (hallowed _ fresh)).holds delivered hd
    refine ⟨hholds.registered, hholds.kept, fun honce a ha hack e he => ?_⟩
    obtain rfl | he := mem_cons.mp he
    · exact id
    · exact hholds.quiet honce a ha hack e he

end Messages

/-- The reducer over a sequence of messages, with all it has emitted. A message at which it throws
leaves the state. -/
structure Reducer where
  state : LatticeState
  emitted : List LatticeEvent

namespace Reducer

def start (latticeId : String) (timeoutMs : Option Int) : Reducer :=
  ⟨createLatticeState latticeId timeoutMs, []⟩

def step (t : Texts) (r : Reducer) (m : LatticeMessage) : Option Reducer :=
  some
    (match reduceLatticeMessage t r.state m with
      | none => r
      | some result => ⟨result.state, r.emitted ++ result.emit⟩)

section Runs

variable {t : Texts} {r r' : Reducer} {m : LatticeMessage} {d : RegisteredDependency}

def Guard (t : Texts) (r : Reducer) (m : LatticeMessage) : Prop := Allowed t r.state m

instance : Decidable (Guard t r m) := inferInstanceAs (Decidable (Allowed t r.state m))

theorem held_start (latticeId : String) (timeoutMs : Option Int) :
    Held t (start latticeId timeoutMs).state where
  settled := ⟨nofun, nofun, nofun, nodup_nil⟩
  unique := nodup_nil
  own _ _ := rfl
  matched := nofun
  single := nofun

theorem step_cases (hs : Settled r.state) (h : step t r m = some r') :
    r' = r ∨ ∃ emit, r'.emitted = r.emitted ++ emit ∧ Reduces t r.state m r'.state emit := by
  unfold step at h
  cases hreduce : reduceLatticeMessage t r.state m with
  | none =>
    rw [hreduce] at h
    exact .inl (some.inj h).symm
  | some result =>
    rw [hreduce] at h
    cases h
    exact .inr ⟨result.emit, rfl, reduceLatticeMessage_reduces hs hreduce⟩

theorem held_step (h : Held t r.state) (hstep : step t r m = some r') (hg : Guard t r m) :
    Held t r'.state := by
  obtain rfl | ⟨emit, -, hr⟩ := step_cases h.settled hstep
  · exact h
  · exact h.reduces hg hr

theorem holds_exec {after : List LatticeMessage} (h : Held t r.state)
    (hd : d ∈ r.state.dependencies) (hreplaces : ∀ m ∈ after, ¬ Replaces t d m)
    (hG : Guarded (step t) (Guard t) r after) (hexec : exec (step t) r after = some r') :
    ∃ emit, r'.emitted = r.emitted ++ emit ∧ Holds r.state r'.state emit d := by
  induction after generalizing r with
  | nil =>
    cases hexec
    exact ⟨[], (append_nil _).symm, .refl hd⟩
  | cons m after ih =>
    obtain ⟨r₁, hstep, hrest⟩ := exec_cons.mp hexec
    obtain ⟨hg, hG⟩ := (guarded_cons hstep).mp hG
    have hfirst : ∃ emit, r₁.emitted = r.emitted ++ emit ∧ Holds r.state r₁.state emit d := by
      obtain rfl | ⟨emit, hemit, hr⟩ := step_cases h.settled hstep
      · exact ⟨[], (append_nil _).symm, .refl hd⟩
      · exact ⟨emit, hemit, h.holds hg hr hd (hreplaces m mem_cons_self)⟩
    obtain ⟨emit, hemit, hholds⟩ := hfirst
    obtain ⟨emit', hemit', hholds'⟩ := ih (held_step h hstep hg) hholds.registered
      (fun m hm => hreplaces m (mem_cons_of_mem _ hm)) hG hrest
    exact ⟨emit ++ emit', by rw [hemit', hemit, append_assoc], hholds.trans hholds'⟩

end Runs

/-- As long as no dependency is registered again while it has an activation, and no deaf one is
satisfied: a registered dependency has activations exactly when all its matchers are matched, in
mode once a single one; to register it again says nothing and leaves the activations; and until it
is replaced its activations stay, and it is not announced after an acknowledgement in mode once. -/
theorem once_means_once (t : Texts) (latticeId : String) (timeoutMs : Option Int)
    {before : List LatticeMessage} {r : Reducer}
    (h : exec (step t) (start latticeId timeoutMs) before = some r)
    (hG : Guarded (step t) (Guard t) (start latticeId timeoutMs) before) :
    (∀ d ∈ r.state.dependencies,
      (Matched t r.state.artifacts d ↔ activationsOf r.state.activations d.dependencyId ≠ []) ∧
      (d.mode = .once → (activationsOf r.state.activations d.dependencyId).length ≤ 1)) ∧
    (∀ dependency registeredAt r',
      createRegisteredDependency t dependency ∈ r.state.dependencies →
      Guard t r (.registerDependency dependency registeredAt) →
      step t r (.registerDependency dependency registeredAt) = some r' →
      r'.emitted = r.emitted ∧ r'.state.activations = r.state.activations) ∧
    ∀ d ∈ r.state.dependencies, ∀ after r', (∀ m ∈ after, ¬ Replaces t d m) →
      Guarded (step t) (Guard t) r after → exec (step t) r after = some r' →
      ∃ emit, r'.emitted = r.emitted ++ emit ∧ Holds r.state r'.state emit d := by
  have hheld : Held t r.state :=
    guarded_invariant (I := fun r => Held t r.state) (fun _ _ _ => held_step)
      (held_start latticeId timeoutMs) hG h
  refine ⟨fun d hd => ⟨hheld.matched d hd, hheld.single d hd⟩, ?_, ?_⟩
  · intro dependency registeredAt r' hmem hg hstep
    obtain rfl | ⟨emit, hemit, hr⟩ := step_cases hheld.settled hstep
    · exact ⟨rfl, rfl⟩
    · obtain ⟨rfl, hactivations⟩ := hheld.reregistered hmem hg hr
      exact ⟨hemit.trans (append_nil _), hactivations⟩
  · exact fun d hd after r' hreplaces hG hexec => holds_exec hheld hd hreplaces hG hexec

def registeredTwice : List LatticeMessage :=
  [.registerDependency (plainDependency "d" "a") (some 1),
    .registerDependency (plainDependency "d" "a") (some 2),
    .publishArtifact (plainArtifact "a" 3)]

theorem once_means_once_registered_twice : ∃ r,
    exec (step plainTexts) (start "lattice" none) registeredTwice = some r ∧
    ∀ d ∈ r.state.dependencies,
      (activationsOf r.state.activations d.dependencyId).length ≤ 1 ∨ d.mode ≠ .once := by
  have hrun : (exec (step plainTexts) (start "lattice" none) registeredTwice).isSome = true := by
    decide +kernel
  obtain ⟨r, hr⟩ := Option.isSome_iff_exists.mp hrun
  obtain ⟨hone, -, -⟩ := once_means_once plainTexts "lattice" none hr (by decide +kernel)
  refine ⟨r, hr, fun d hd => ?_⟩
  by_cases honce : d.mode = .once
  · exact .inl ((hone d hd).2 honce)
  · exact .inr honce

def acknowledgedRun : List LatticeMessage :=
  [.registerDependency (plainDependency "d" "a") (some 1),
    .publishArtifact (plainArtifact "a" 2), .ackActivation (activationIdFor "d" "a:@1") (some 3)]

/-- To register the same dependency again announces it again, and forgets that it was
acknowledged. -/
theorem registration_announces_again : ∃ r r',
    exec (step plainTexts) (start "lattice" none) acknowledgedRun = some r ∧
    createRegisteredDependency plainTexts (plainDependency "d" "a") ∈ r.state.dependencies ∧
    step plainTexts r (.registerDependency (plainDependency "d" "a") (some 4)) = some r' ∧
    (∀ a ∈ r.state.activations, a.status = .acknowledged) ∧ r'.emitted ≠ r.emitted ∧
    r'.state.activations ≠ r.state.activations ∧
    ∃ a ∈ r'.state.activations, a.status = .delivered := by
  have hrun : (exec (step plainTexts) (start "lattice" none) acknowledgedRun).any (fun r =>
      decide (createRegisteredDependency plainTexts (plainDependency "d" "a") ∈ r.state.dependencies ∧
        (∀ a ∈ r.state.activations, a.status = .acknowledged) ∧
        (step plainTexts r (.registerDependency (plainDependency "d" "a") (some 4))).any (fun r' =>
          decide (r'.emitted ≠ r.emitted ∧ r'.state.activations ≠ r.state.activations ∧
            ∃ a ∈ r'.state.activations, a.status = .delivered)) = true)) = true := by
    decide +kernel
  obtain ⟨r, hr, hstate⟩ := (Option.any_eq_true _ _).mp hrun
  obtain ⟨hmem, hack, hnext⟩ := of_decide_eq_true hstate
  obtain ⟨r', hr', hafter⟩ := (Option.any_eq_true _ _).mp hnext
  exact ⟨r, r', hr, hmem, hr', hack, of_decide_eq_true hafter⟩

end Reducer

end ActorWeb.Lattice
