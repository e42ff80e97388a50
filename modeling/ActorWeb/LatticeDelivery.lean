import ActorWeb.LatticeActor

namespace ActorWeb.Lattice

open OrderedMap hiding keys

open Option hiding map_id map_map mem_map mem_map_of_mem

open List JsText

theorem activationIdFor_inj {dependencyId dependencyId' key key' : String}
    (h : activationIdFor dependencyId key = activationIdFor dependencyId' key') :
    dependencyId = dependencyId' ∧ key = key' := by
  have hlist := congrArg String.toList h
  simp only [activationIdFor, String.toList_append, append_assoc] at hlist
  have hend : dependencyId.toList ++ ':' :: (encodeURIComponent key).toList =
      dependencyId'.toList ++ ':' :: (encodeURIComponent key').toList :=
    append_cancel_left hlist
  -- an encoded key holds no colon, so both ids split at the same one
  obtain ⟨hid, hkey⟩ := split_at_last hend (plain_encodeURIComponent key)
    (plain_encodeURIComponent key')
  exact ⟨String.toList_inj.mp hid, encodeURIComponent_injective (String.toList_inj.mp hkey)⟩

section DeliveredKeys

def Recorded (keys : DeliveredKeys) (activation : LatticeActivationRecord) : Prop :=
  ∃ delivered, keys.get activation.dependencyId = some delivered ∧
    activation.satisfactionKey ∈ delivered

def Grows (keys keys' : DeliveredKeys) : Prop :=
  ∀ activation, Recorded keys activation → Recorded keys' activation

variable {keys keys' : DeliveredKeys} {dependencyId key : String}

theorem property_eq_own {delivered : List String}
    (h : keys.property dependencyId = .own delivered) : keys.get dependencyId = some delivered := by
  unfold OrderedMap.property at h
  cases hget : keys.get dependencyId with
  | none =>
    rw [hget] at h
    dsimp only at h
    split at h <;> cases h
  | some delivered' =>
    rw [hget] at h
    cases h
    rfl

theorem appendDeliveredKey_cases (h : appendDeliveredKey keys dependencyId key = some keys') :
    (keys' = keys ∧ ∃ delivered, keys.get dependencyId = some delivered ∧ key ∈ delivered) ∨
      ∃ delivered, keys' = keys.set dependencyId (delivered ++ [key]) ∧
        (keys.get dependencyId = some delivered ∨
          delivered = [] ∧ keys.property dependencyId = .missing) := by
  unfold appendDeliveredKey at h
  cases hproperty : keys.property dependencyId with
  | own delivered =>
    rw [hproperty] at h
    have hget := property_eq_own hproperty
    cases h
    by_cases hmem : key ∈ delivered
    · exact .inl ⟨if_pos hmem, delivered, hget, hmem⟩
    · exact .inr ⟨delivered, if_neg hmem, .inl hget⟩
  | missing =>
    rw [hproperty] at h
    exact .inr ⟨[], (some.inj h).symm, .inr ⟨rfl, rfl⟩⟩
  | inherited => rw [hproperty] at h; cases h

variable {activation : LatticeActivationRecord}

theorem appendDeliveredKey_recorded
    (h : appendDeliveredKey keys activation.dependencyId activation.satisfactionKey = some keys') :
    Recorded keys' activation := by
  obtain ⟨rfl, hrecorded⟩ | ⟨delivered, rfl, -⟩ := appendDeliveredKey_cases h
  · exact hrecorded
  · exact ⟨_, get_set_self .., by simp⟩

theorem appendDeliveredKey_grows (h : appendDeliveredKey keys dependencyId key = some keys') :
    Grows keys keys' := by
  obtain ⟨rfl, -⟩ | ⟨delivered, rfl, hdelivered⟩ := appendDeliveredKey_cases h
  · exact fun _ h => h
  · rintro activation ⟨delivered', hget, hmem⟩
    by_cases hid : activation.dependencyId = dependencyId
    · rw [hid] at hget
      obtain hown | ⟨-, hmissing⟩ := hdelivered
      · obtain rfl := some.inj (hown.symm.trans hget)
        exact ⟨_, by rw [hid, get_set_self], mem_append_left _ hmem⟩
      · rw [property_of_get hget] at hmissing
        cases hmissing
    · exact ⟨delivered', by rw [get_set_ne _ _ hid, hget], hmem⟩

theorem appendDeliveredKey_other (h : appendDeliveredKey keys dependencyId key = some keys')
    {other : String} (hother : other ≠ dependencyId) : keys'.get other = keys.get other := by
  obtain ⟨rfl, -⟩ | ⟨delivered, rfl, -⟩ := appendDeliveredKey_cases h
  · rfl
  · exact get_set_ne _ _ hother

theorem appendDeliveredKey_of_recorded (h : Recorded keys activation) :
    appendDeliveredKey keys activation.dependencyId activation.satisfactionKey = some keys := by
  obtain ⟨delivered, hget, hmem⟩ := h
  rw [appendDeliveredKey, property_of_get hget]
  exact congrArg some (if_pos hmem)

variable {activations : List LatticeActivationRecord}

def recordAll (keys : DeliveredKeys) (activations : List LatticeActivationRecord) :
    Option DeliveredKeys :=
  activations.foldlM (fun keys activation => appendDeliveredKey keys activation.dependencyId
    activation.satisfactionKey) keys

theorem recordAll_cons : recordAll keys (activation :: activations) =
      (appendDeliveredKey keys activation.dependencyId activation.satisfactionKey).bind
        fun keys => recordAll keys activations :=
  foldlM_cons

theorem recordAll_spec (h : recordAll keys activations = some keys') :
    Grows keys keys' ∧ (∀ activation ∈ activations, Recorded keys' activation) ∧
      ∀ other, (∀ activation ∈ activations, activation.dependencyId ≠ other) →
        keys'.get other = keys.get other := by
  induction activations generalizing keys with
  | nil =>
    cases h
    exact ⟨fun _ h => h, fun _ hmem => absurd hmem not_mem_nil, fun _ _ => rfl⟩
  | cons activation activations ih =>
    rw [recordAll_cons] at h
    obtain ⟨keys₁, happend, hrest⟩ := bind_eq_some_iff.mp h
    obtain ⟨hgrows, hrecorded, hother⟩ := ih hrest
    refine ⟨fun a ha => hgrows a (appendDeliveredKey_grows happend a ha), ?_, ?_⟩
    · intro a ha
      obtain rfl | ha := mem_cons.mp ha
      · exact hgrows _ (appendDeliveredKey_recorded happend)
      · exact hrecorded a ha
    · intro other hne
      rw [hother other fun a ha => hne a (mem_cons_of_mem _ ha)]
      exact appendDeliveredKey_other happend (hne activation mem_cons_self).symm

theorem recordAll_of_recorded (h : ∀ activation ∈ activations, Recorded keys activation) :
    recordAll keys activations = some keys := by
  induction activations with
  | nil => rfl
  | cons activation activations ih =>
    rw [recordAll_cons, appendDeliveredKey_of_recorded (h activation mem_cons_self),
      bind_some]
    exact ih fun a ha => h a (mem_cons_of_mem _ ha)

end DeliveredKeys

section Queue

variable {t : Texts} {now : Int} {s s' : LatticeState} {d : RegisteredDependency}
  {activation : LatticeActivationRecord}

def blocked (activations : List LatticeActivationRecord) (activationId : String) : Bool :=
  (activations.find? fun other => other.activationId = activationId).any fun other =>
    other.status ≠ .acknowledged

def toQueue (t : Texts) (now : Int) (s : LatticeState) (d : RegisteredDependency) :
    Option (Option LatticeActivationRecord) :=
  match evaluateDependencySatisfaction t s.artifacts d with
  | none => some none
  | some satisfaction =>
    (shouldEmitSatisfaction s.deliveredSatisfactionKeys d satisfaction.satisfactionKey).map
      fun emits =>
        if emits = false ∨ blocked s.activations
          (activationIdFor d.dependencyId satisfaction.satisfactionKey) = true
        then none
        else some (pendingActivation d satisfaction now)

def withActivations (s : LatticeState) (new : List LatticeActivationRecord) : LatticeState :=
  { s with activations := s.activations ++ new }

theorem withActivations_nil (s : LatticeState) : withActivations s [] = s := by
  rw [withActivations, append_nil]

theorem withActivations_append (s : LatticeState) (new new' : List LatticeActivationRecord) :
    withActivations (withActivations s new) new' = withActivations s (new ++ new') := by
  simp only [withActivations, append_assoc]

theorem queueSatisfactionActivation_eq : queueSatisfactionActivation t now s d =
      (toQueue t now s d).map fun queued => withActivations s queued.toList := by
  unfold queueSatisfactionActivation toQueue
  cases evaluateDependencySatisfaction t s.artifacts d with
  | none => exact congrArg some (withActivations_nil s).symm
  | some satisfaction =>
    dsimp only
    cases shouldEmitSatisfaction s.deliveredSatisfactionKeys d satisfaction.satisfactionKey with
    | none => rfl
    | some emits =>
      simp only [map_some, bind_eq_bind, bind_some]
      split
      case isTrue hskip =>
        change emits = false ∨ blocked s.activations
          (activationIdFor d.dependencyId satisfaction.satisfactionKey) = true at hskip
        rw [if_pos hskip, toList_none, withActivations_nil]
      case isFalse hskip =>
        change ¬ (emits = false ∨ blocked s.activations
          (activationIdFor d.dependencyId satisfaction.satisfactionKey) = true) at hskip
        rw [if_neg hskip]
        rfl

theorem toQueue_eq_some (h : toQueue t now s d = some (some activation)) :
    ∃ satisfaction, evaluateDependencySatisfaction t s.artifacts d = some satisfaction ∧
      activation = pendingActivation d satisfaction now ∧
      shouldEmitSatisfaction s.deliveredSatisfactionKeys d satisfaction.satisfactionKey =
        some true ∧
      blocked s.activations (activationIdFor d.dependencyId satisfaction.satisfactionKey) =
        false := by
  unfold toQueue at h
  cases heval : evaluateDependencySatisfaction t s.artifacts d with
  | none => rw [heval] at h; cases h
  | some satisfaction =>
    rw [heval] at h
    obtain ⟨emits, hemits, h⟩ := map_eq_some_iff.mp h
    split at h
    case isTrue => cases h
    case isFalse hskip =>
      rw [not_or, Bool.not_eq_false, Bool.not_eq_true] at hskip
      exact ⟨satisfaction, rfl, (some.inj h).symm, by rw [hemits, hskip.1], hskip.2⟩

theorem toQueue_congr (hartifacts : s'.artifacts = s.artifacts)
    (hkeys : s'.deliveredSatisfactionKeys = s.deliveredSatisfactionKeys)
    (hblocked : blocked s'.activations = blocked s.activations) :
    toQueue t now s' d = toQueue t now s d := by
  unfold toQueue
  rw [hartifacts, hkeys, hblocked]

/-- What a whole queue adds to a state whose activations are all delivered. -/
structure Queued (s : LatticeState) (new : List LatticeActivationRecord) : Prop where
  pending : ∀ activation ∈ new, activation.status = .pending ∧ activation.attempts = 0
  named : ∀ activation ∈ new, activation.activationId =
    activationIdFor activation.dependencyId activation.satisfactionKey
  nodup : ((s.activations ++ new).map LatticeActivationRecord.activationId).Nodup

structure Settled (s : LatticeState) : Prop where
  delivered : ∀ activation ∈ s.activations, activation.status ≠ .pending ∧ 1 ≤ activation.attempts
  named : ∀ activation ∈ s.activations, activation.activationId =
    activationIdFor activation.dependencyId activation.satisfactionKey
  recorded : ∀ activation ∈ s.activations, Recorded s.deliveredSatisfactionKeys activation
  nodup : (s.activations.map LatticeActivationRecord.activationId).Nodup

theorem not_shouldEmitSatisfaction {keys : DeliveredKeys} {a : LatticeActivationRecord}
    (h : Recorded keys a) (hid : a.dependencyId = d.dependencyId) :
    shouldEmitSatisfaction keys d a.satisfactionKey = some false := by
  obtain ⟨delivered, hget, hmem⟩ := h
  rw [hid] at hget
  unfold shouldEmitSatisfaction
  rw [property_of_get hget]
  cases d.mode with
  | once => simp [ne_nil_of_mem hmem]
  | everyVersion => simp [hmem]

variable {new : List LatticeActivationRecord}

theorem toQueue_fresh (hs : Settled s) (hnew : Queued s new) {activation : LatticeActivationRecord}
    (h : toQueue t now (withActivations s new) d = some (some activation)) :
    Queued s (new ++ [activation]) := by
  obtain ⟨satisfaction, -, rfl, hemits, hblocked⟩ := toQueue_eq_some h
  have hfresh : ∀ a ∈ s.activations ++ new,
      a.activationId ≠ activationIdFor d.dependencyId satisfaction.satisfactionKey := by
    intro a ha hid
    obtain ⟨first, hfirst⟩ := isSome_iff_exists.mp ((find?_isSome (p := fun other =>
      decide (other.activationId = activationIdFor d.dependencyId satisfaction.satisfactionKey))).mpr
        ⟨a, ha, decide_eq_true hid⟩)
    have hmem := mem_of_find?_eq_some hfirst
    have hfirstId := find?_some hfirst
    rw [decide_eq_true_eq] at hfirstId
    have hack : first.status = .acknowledged := by
      have hopen : blocked (s.activations ++ new)
        (activationIdFor d.dependencyId satisfaction.satisfactionKey) = false := hblocked
      rw [blocked, hfirst] at hopen
      simpa using hopen
    obtain hold | hqueued := mem_append.mp hmem
    · obtain ⟨hdep, hkey⟩ := activationIdFor_inj ((hs.named first hold).symm.trans hfirstId)
      have hsilent := not_shouldEmitSatisfaction (hs.recorded first hold) hdep
      rw [hkey] at hsilent
      exact absurd (hsilent.symm.trans hemits) (by decide)
    · rw [(hnew.pending first hqueued).1] at hack
      cases hack
  refine ⟨?_, ?_, ?_⟩
  · intro a ha
    obtain ha | ha := mem_append.mp ha
    · exact hnew.pending a ha
    · rw [mem_singleton.mp ha]
      exact ⟨rfl, rfl⟩
  · intro a ha
    obtain ha | ha := mem_append.mp ha
    · exact hnew.named a ha
    · rw [mem_singleton.mp ha]
      rfl
  · rw [← append_assoc, map_append, nodup_append]
    refine ⟨hnew.nodup, by simp, ?_⟩
    intro id hid id' hid' heq
    obtain ⟨a, ha, rfl⟩ := mem_map.mp hid
    rw [map_singleton, mem_singleton] at hid'
    exact hfresh a ha (heq.trans hid')

variable {deps : List RegisteredDependency}

theorem queueSatisfactionActivations_queued (hs : Settled s) (hnew : Queued s new)
    (h : queueSatisfactionActivations t (withActivations s new) deps now = some s') :
    ∃ all, s' = withActivations s all ∧ Queued s all := by
  induction deps generalizing new with
  | nil => exact ⟨new, (some.inj h).symm, hnew⟩
  | cons d deps ih =>
    obtain ⟨s₁, hfirst, hrest⟩ := bind_eq_some_iff.mp
      (foldlM_cons.symm.trans h)
    rw [queueSatisfactionActivation_eq] at hfirst
    obtain ⟨queued, hqueued, rfl⟩ := map_eq_some_iff.mp hfirst
    cases queued with
    | none =>
      rw [toList_none, withActivations_nil] at hrest
      exact ih hnew hrest
    | some activation =>
      rw [withActivations_append] at hrest
      exact ih (toQueue_fresh hs hnew hqueued) hrest

theorem queued_nil (hs : Settled s) : Queued s [] where
  pending _ h := absurd h not_mem_nil
  named _ h := absurd h not_mem_nil
  nodup := (append_nil s.activations).symm ▸ hs.nodup

theorem filter_pending (hs : Settled s) (hnew : Queued s new) :
    (withActivations s new).activations.filter (fun a => a.status = .pending) = new := by
  rw [withActivations, filter_append,
    filter_eq_nil_iff.mpr fun a ha => by simpa using (hs.delivered a ha).1,
    filter_eq_self.mpr fun a ha => by simpa using (hnew.pending a ha).1, nil_append]

def delivery (s : LatticeState) (now : Int) (new : List LatticeActivationRecord)
    (keys : DeliveredKeys) : Delivery where
  state :=
    { s with
      activations := s.activations ++ new.map (deliver s.timeoutMs now)
      deliveredSatisfactionKeys := keys }
  emit := new.map satisfied

theorem deliverPendingActivations_queued (hs : Settled s) (hnew : Queued s new) :
    deliverPendingActivations (withActivations s new) now =
      (recordAll s.deliveredSatisfactionKeys new).map (delivery s now new) := by
  have hold : s.activations.map (fun a => if a.status = .pending then deliver s.timeoutMs now a
      else a) = s.activations :=
    (map_congr_left fun a ha => if_neg (hs.delivered a ha).1).trans (map_id s.activations)
  have hall : new.map (fun a => if a.status = .pending then deliver s.timeoutMs now a else a) =
      new.map (deliver s.timeoutMs now) :=
    map_congr_left fun a ha => if_pos (hnew.pending a ha).1
  unfold deliverPendingActivations deliveredKeysAfter
  rw [filter_pending hs hnew]
  simp only [withActivations, map_append, hold, hall]
  rfl

structure Delivered (t : Texts) (s : LatticeState) (deps : List RegisteredDependency) (now : Int)
    (new : List LatticeActivationRecord) (keys : DeliveredKeys) : Prop where
  queue : queueSatisfactionActivations t s deps now = some (withActivations s new)
  queued : Queued s new
  record : recordAll s.deliveredSatisfactionKeys new = some keys

theorem queueAndDeliver_spec (hs : Settled s) {d : Delivery}
    (h : queueAndDeliver t s deps now = some d) :
    ∃ new keys, Delivered t s deps now new keys ∧ d = delivery s now new keys := by
  obtain ⟨queued, hqueue, hdeliver⟩ := bind_eq_some_iff.mp h
  obtain ⟨new, rfl, hnew⟩ := queueSatisfactionActivations_queued hs (queued_nil hs)
    ((withActivations_nil s).symm ▸ hqueue)
  rw [deliverPendingActivations_queued hs hnew] at hdeliver
  obtain ⟨keys, hkeys, rfl⟩ := map_eq_some_iff.mp hdeliver
  exact ⟨new, keys, ⟨hqueue, hnew, hkeys⟩, rfl⟩

theorem Delivered.settled (hs : Settled s) {keys : DeliveredKeys}
    (h : Delivered t s deps now new keys) : Settled (delivery s now new keys).state := by
  obtain ⟨hgrows, hrecorded, -⟩ := recordAll_spec h.record
  refine ⟨?_, ?_, ?_, ?_⟩
  · intro a ha
    obtain ha | ha := mem_append.mp ha
    · exact hs.delivered a ha
    · obtain ⟨b, -, rfl⟩ := mem_map.mp ha
      exact ⟨nofun, Nat.le_add_left 1 b.attempts⟩
  · intro a ha
    obtain ha | ha := mem_append.mp ha
    · exact hs.named a ha
    · obtain ⟨b, hb, rfl⟩ := mem_map.mp ha
      exact h.queued.named b hb
  · intro a ha
    obtain ha | ha := mem_append.mp ha
    · exact hgrows a (hs.recorded a ha)
    · obtain ⟨b, hb, rfl⟩ := mem_map.mp ha
      exact hrecorded b hb
  · have hids : (s.activations ++ new.map (deliver s.timeoutMs now)).map
        LatticeActivationRecord.activationId =
        (s.activations ++ new).map LatticeActivationRecord.activationId := by
      rw [map_append, map_append, map_map]
      rfl
    exact hids ▸ h.queued.nodup

end Queue

section Events

variable {t : Texts} {now : Int} {s s' : LatticeState} {e : LatticeJournalEvent}

theorem Settled.reset (hs : Settled s) (dependencyId : String) :
    Settled (resetDependencyActivationState s dependencyId) where
  delivered a ha := hs.delivered a (mem_of_mem_filter ha)
  named a ha := hs.named a (mem_of_mem_filter ha)
  recorded a ha := by
    obtain ⟨hmem, hne⟩ := mem_filter.mp ha
    obtain ⟨delivered, hget, hkey⟩ := hs.recorded a hmem
    exact ⟨delivered, by rw [← hget]; exact get_delete_ne _ (of_decide_eq_true hne), hkey⟩
  nodup := (filter_sublist.map _).nodup hs.nodup

theorem acknowledge_activationId (activationId : String) (at' : Int)
    (a : LatticeActivationRecord) : (acknowledge activationId at' a).activationId = a.activationId := by
  unfold acknowledge
  split <;> rfl

theorem Settled.acknowledged (hs : Settled s) (activationId : String) (at' : Int) :
    Settled (withAcknowledgement s activationId at') := by
  have hmem : ∀ a ∈ (withAcknowledgement s activationId at').activations, ∃ b ∈ s.activations,
      a.dependencyId = b.dependencyId ∧ a.satisfactionKey = b.satisfactionKey ∧
      a.activationId = b.activationId ∧ a.attempts = b.attempts ∧
      (a.status = b.status ∨ a.status = .acknowledged) := by
    intro a ha
    obtain ⟨b, hb, rfl⟩ := mem_map.mp ha
    refine ⟨b, hb, ?_⟩
    unfold acknowledge
    split
    · exact ⟨rfl, rfl, rfl, rfl, .inr rfl⟩
    · exact ⟨rfl, rfl, rfl, rfl, .inl rfl⟩
  refine ⟨?_, ?_, ?_, ?_⟩
  · intro a ha
    obtain ⟨b, hb, -, -, -, hattempts, hstatus⟩ := hmem a ha
    obtain ⟨hpending, hone⟩ := hs.delivered b hb
    refine ⟨?_, hattempts ▸ hone⟩
    obtain h | h := hstatus
    · exact h ▸ hpending
    · exact h ▸ nofun
  · intro a ha
    obtain ⟨b, hb, hdep, hkey, hid, -⟩ := hmem a ha
    rw [hid, hdep, hkey]
    exact hs.named b hb
  · intro a ha
    obtain ⟨b, hb, hdep, hkey, -⟩ := hmem a ha
    obtain ⟨delivered, hget, hin⟩ := hs.recorded b hb
    exact ⟨delivered, hdep ▸ hget, hkey ▸ hin⟩
  · have hids : (withAcknowledgement s activationId at').activations.map
        LatticeActivationRecord.activationId =
        s.activations.map LatticeActivationRecord.activationId := by
      rw [withAcknowledgement, map_map]
      exact map_congr_left fun a _ => acknowledge_activationId activationId at' a
    exact hids ▸ hs.nodup

theorem Settled.queued (hs : Settled s) {deps : List RegisteredDependency} {d : Delivery}
    (h : queueAndDeliver t s deps now = some d) : Settled d.state := by
  obtain ⟨new, keys, hdelivered, rfl⟩ := queueAndDeliver_spec hs h
  exact hdelivered.settled hs

theorem Settled.withArtifact (hs : Settled s) (artifact : ArtifactRecord) :
    Settled (Lattice.withArtifact s artifact) := ⟨hs.1, hs.2, hs.3, hs.4⟩

theorem Settled.counted (hs : Settled s) : Settled (Lattice.counted s) := ⟨hs.1, hs.2, hs.3, hs.4⟩

theorem Settled.withDependency (hs : Settled s) (d : RegisteredDependency) :
    Settled (Lattice.withDependency t s d) := ⟨hs.1, hs.2, hs.3, hs.4⟩

theorem Settled.withoutDependency (hs : Settled s) (dependencyId : String) :
    Settled (Lattice.withoutDependency s dependencyId) := ⟨hs.1, hs.2, hs.3, hs.4⟩

theorem applyJournalEvent_settled (hs : Settled s) (h : applyJournalEvent t s e = some s') :
    Settled s' := by
  cases e with
  | artifactPublished artifact =>
    obtain ⟨d, hd, rfl⟩ := map_eq_some_iff.mp h
    exact (hs.withArtifact artifact).counted.queued hd
  | dependencyRegistered dependency registeredAt =>
    obtain ⟨d, hd, rfl⟩ := map_eq_some_iff.mp h
    exact ((hs.withDependency dependency).counted.reset dependency.dependencyId).queued hd
  | dependencyWithdrawn dependencyId =>
    cases h
    exact (hs.withoutDependency dependencyId).counted.reset dependencyId
  | activationAcknowledged activationId acknowledgedAt =>
    cases h
    exact (hs.acknowledged activationId acknowledgedAt).counted

end Events

section Timeouts

variable {now : Int} {s : LatticeState} {activations due : List LatticeActivationRecord}

def isDue (now : Int) (activation : LatticeActivationRecord) : Bool :=
  activation.status = .delivered && activation.nextTimeoutAt.any fun next => ¬ now < next

def awaiting (activation : LatticeActivationRecord) : LatticeActivationRecord :=
  { activation with status := .pending }

def redeliver (timeoutMs now : Int) (activation : LatticeActivationRecord) :
    LatticeActivationRecord :=
  if isDue now activation = true then deliver timeoutMs now activation else activation

theorem foldl_markPending : due.foldl markPending activations = activations.map fun a =>
      if a.activationId ∈ due.map LatticeActivationRecord.activationId then awaiting a else a := by
  induction due generalizing activations with
  | nil => exact (map_id activations).symm
  | cons d due ih =>
    rw [foldl_cons, ih, markPending, map_map]
    refine map_congr_left fun a _ => ?_
    by_cases hd : a.activationId = d.activationId
    · simp [awaiting, hd]
    · simp [hd]

theorem mem_due_iff (hnodup : (s.activations.map LatticeActivationRecord.activationId).Nodup)
    {a : LatticeActivationRecord} (ha : a ∈ s.activations) :
    a.activationId ∈ (dueActivations s now).map LatticeActivationRecord.activationId ↔
      isDue now a = true := by
  constructor
  · intro hmem
    obtain ⟨b, hb, hid⟩ := mem_map.mp hmem
    obtain ⟨hb, hdue⟩ := mem_filter.mp hb
    rw [inj_on_of_nodup_map hnodup hb ha hid] at hdue
    exact hdue
  · exact fun hdue => mem_map_of_mem (mem_filter.mpr ⟨ha, hdue⟩)

theorem marked_eq (hs : Settled s) : (dueActivations s now).foldl markPending s.activations =
      s.activations.map fun a => if isDue now a = true then awaiting a else a := by
  rw [foldl_markPending]
  refine map_congr_left fun a ha => ?_
  simp only [mem_due_iff hs.nodup ha]

theorem marked_pending (hs : Settled s) :
    (s.activations.map fun a => if isDue now a = true then awaiting a else a).filter
      (fun a => a.status = .pending) = (dueActivations s now).map awaiting := by
  have hgo : ∀ as : List LatticeActivationRecord, (∀ a ∈ as, a.status ≠ .pending) →
      (as.map fun a => if isDue now a = true then awaiting a else a).filter
        (fun a => a.status = .pending) = (as.filter fun a => isDue now a).map awaiting := by
    intro as
    induction as with
    | nil => exact fun _ => rfl
    | cons a as ih =>
      intro has
      have hrest := ih fun b hb => has b (mem_cons_of_mem _ hb)
      have ha := has a mem_cons_self
      rw [map_cons, filter_cons, filter_cons, hrest]
      by_cases hdue : isDue now a = true
      · simp [hdue, awaiting]
      · simp [hdue, ha]
  exact hgo s.activations fun a ha => (hs.delivered a ha).1

theorem evaluateActivationTimeouts_eq (hs : Settled s) : evaluateActivationTimeouts s now = some
      { state := { s with activations := s.activations.map (redeliver s.timeoutMs now) }
        emit := (dueActivations s now).map (timedOut now) ++ (dueActivations s now).map satisfied } := by
  have hkeys : recordAll s.deliveredSatisfactionKeys ((dueActivations s now).map awaiting) =
      some s.deliveredSatisfactionKeys := by
    refine recordAll_of_recorded fun a ha => ?_
    obtain ⟨b, hb, rfl⟩ := mem_map.mp ha
    exact hs.recorded b (mem_of_mem_filter hb)
  have hactivations : (s.activations.map fun a => if isDue now a = true then awaiting a else a).map
      (fun a => if a.status = .pending then deliver s.timeoutMs now a else a) =
      s.activations.map (redeliver s.timeoutMs now) := by
    rw [map_map]
    refine map_congr_left fun a ha => ?_
    have hpending := (hs.delivered a ha).1
    by_cases hdue : isDue now a = true
    · simp [redeliver, hdue, awaiting, deliver]
    · simp [redeliver, hdue, hpending]
  unfold evaluateActivationTimeouts deliverPendingActivations deliveredKeysAfter
  rw [marked_eq hs, marked_pending hs]
  unfold recordAll at hkeys
  rw [hkeys]
  simp only [map_some, hactivations, map_map]
  rfl

theorem redeliver_cases (timeoutMs now : Int) (a : LatticeActivationRecord) :
    redeliver timeoutMs now a = a ∨
      a.status = .delivered ∧ redeliver timeoutMs now a = deliver timeoutMs now a := by
  unfold redeliver
  by_cases hdue : isDue now a = true
  · have hstatus : a.status = .delivered := by
      unfold isDue at hdue
      rw [Bool.and_eq_true] at hdue
      exact of_decide_eq_true hdue.1
    exact .inr ⟨hstatus, if_pos hdue⟩
  · exact .inl (if_neg hdue)

theorem Settled.redelivered (hs : Settled s) (now : Int) :
    Settled { s with activations := s.activations.map (redeliver s.timeoutMs now) } := by
  have hmem : ∀ a ∈ s.activations.map (redeliver s.timeoutMs now), ∃ b ∈ s.activations,
      a = b ∨ b.status = .delivered ∧ a = deliver s.timeoutMs now b := by
    intro a ha
    obtain ⟨b, hb, rfl⟩ := mem_map.mp ha
    exact ⟨b, hb, redeliver_cases s.timeoutMs now b⟩
  refine ⟨?_, ?_, ?_, ?_⟩
  · intro a ha
    obtain ⟨b, hb, rfl | ⟨-, rfl⟩⟩ := hmem a ha
    · exact hs.delivered a hb
    · exact ⟨nofun, Nat.le_add_left 1 b.attempts⟩
  · intro a ha
    obtain ⟨b, hb, rfl | ⟨-, rfl⟩⟩ := hmem a ha
    · exact hs.named a hb
    · exact hs.named b hb
  · intro a ha
    obtain ⟨b, hb, rfl | ⟨-, rfl⟩⟩ := hmem a ha
    · exact hs.recorded a hb
    · exact hs.recorded b hb
  · have hids : (s.activations.map (redeliver s.timeoutMs now)).map
        LatticeActivationRecord.activationId =
        s.activations.map LatticeActivationRecord.activationId := by
      rw [map_map]
      refine map_congr_left fun a _ => ?_
      obtain h | ⟨-, h⟩ := redeliver_cases s.timeoutMs now a
      · exact congrArg LatticeActivationRecord.activationId h
      · exact (congrArg LatticeActivationRecord.activationId h).trans rfl
    exact hids ▸ hs.nodup

end Timeouts

section Inputs

/-- Texts in the order of their code points. No content is hashed where the input names its hash. -/
def plainTexts : Texts := ⟨compare, fun _ => ""⟩

def plainArtifact (type : String) (publishedAt : Int) : ArtifactInput where
  artifactId := none
  type := type
  key := none
  version := none
  payload := .null
  producer := "producer"
  publishedAt := publishedAt
  contentHash := some "hash"
  metadata := none

def plainDependency (dependencyId type : String) : DependencyInput where
  id := none
  lattice := "lattice"
  requires := [⟨type, none, none⟩]
  dependencyId := some dependencyId
  actorKey := "actor"
  mode := none

end Inputs

end ActorWeb.Lattice
