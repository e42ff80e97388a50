import ActorWeb.LatticeActivations
import ActorWeb.LatticeStore

/-! What a dependency of mode every version is activated with, and the latest artifacts. -/

namespace ActorWeb.Lattice

open Option hiding filter_filter mem_map mem_map_of_mem

open List JsText

section Latest

variable {t : Texts} {artifacts : List ArtifactRecord} {matcher : ArtifactMatcher}
  {r : ArtifactRecord}

/-- The artifact comes before all others that match, in the order in which one is selected. -/
def LatestOf (t : Texts) (matcher : ArtifactMatcher) (artifacts : List ArtifactRecord)
    (r : ArtifactRecord) : Prop :=
  ∀ a ∈ artifacts, matcherMatchesArtifact t a matcher = true → a ≠ r →
    compareArtifacts t a r = .gt

theorem sortBy_concat_head? {α : Type} {compare : α → α → Ordering} {values : List α} {last : α}
    (hlast : last ∉ values) : (sortBy compare (values ++ [last])).head? = some last ↔
      ∀ a ∈ values, compare a last = .gt := by
  induction values with
  | nil => exact iff_of_true rfl (forall_mem_nil _)
  | cons a values ih =>
    rw [mem_cons, not_or] at hlast
    obtain ⟨hne, hlast⟩ := hlast
    rw [forall_mem_cons, ← ih hlast]
    have hcons : sortBy compare (a :: values ++ [last]) =
        (sortBy compare (values ++ [last])).orderedInsert (fun a b => (compare a b).isLE) a := rfl
    rw [hcons]
    cases hsorted : sortBy compare (values ++ [last]) with
    | nil =>
      have hlength := (sortBy_perm compare (values ++ [last])).length_eq
      rw [hsorted, length_append] at hlength
      cases hlength
    | cons first rest =>
      rw [orderedInsert_cons, head?_cons]
      by_cases hle : (compare a first).isLE = true
      · rw [if_pos hle, head?_cons]
        refine iff_of_false (fun h => hne (some.inj h).symm) ?_
        rintro ⟨hgt, hfirst⟩
        rw [some.inj hfirst, hgt] at hle
        cases hle
      · rw [if_neg hle, head?_cons]
        refine ⟨fun h => ⟨?_, h⟩, And.right⟩
        rw [some.inj h] at hle
        cases hcompare : compare a last with
        | gt => rfl
        | lt | eq => rw [hcompare] at hle; exact absurd rfl hle

theorem selectLatest_eq_last {others : List ArtifactRecord} (hr : r ∉ others)
    (hmatching : (artifacts.filter fun a => matcherMatchesArtifact t a matcher) = others ++ [r]) :
    selectLatestMatchingArtifact t artifacts matcher = some r ↔ LatestOf t matcher artifacts r := by
  have hothers : ∀ a, a ∈ others ↔
      (a ∈ artifacts ∧ matcherMatchesArtifact t a matcher = true) ∧ a ≠ r := by
    intro a
    have hmem : a ∈ artifacts ∧ matcherMatchesArtifact t a matcher = true ↔ a ∈ others ++ [r] := by
      rw [← hmatching, mem_filter]
    rw [hmem, mem_append, mem_singleton]
    constructor
    · exact fun ha => ⟨.inl ha, fun h => hr (h ▸ ha)⟩
    · rintro ⟨ha | ha, hne⟩
      · exact ha
      · exact absurd ha hne
  unfold selectLatestMatchingArtifact LatestOf
  rw [hmatching, sortBy_concat_head? hr]
  simp only [hothers, and_imp]

theorem selectLatest_concat (hr : r ∉ artifacts) (hmatch : matcherMatchesArtifact t r matcher = true) :
    selectLatestMatchingArtifact t (artifacts ++ [r]) matcher = some r ↔
      LatestOf t matcher artifacts r := by
  have hmatching : ((artifacts ++ [r]).filter fun a => matcherMatchesArtifact t a matcher) =
      (artifacts.filter fun a => matcherMatchesArtifact t a matcher) ++ [r] := by
    rw [filter_append, filter_singleton, hmatch]
    rfl
  rw [selectLatest_eq_last (fun h => hr (mem_of_mem_filter h)) hmatching]
  refine ⟨fun h a ha => h a (mem_append_left _ ha), fun h a ha hmatch' hne => ?_⟩
  obtain ha | ha := mem_append.mp ha
  · exact h a ha hmatch' hne
  · exact absurd (mem_singleton.mp ha) hne

theorem selectLatest_mem {a : ArtifactRecord}
    (h : selectLatestMatchingArtifact t artifacts matcher = some a) :
    a ∈ artifacts ∧ matcherMatchesArtifact t a matcher = true := by
  have hmem := (sortBy_perm _ _).mem_iff.mp (mem_of_head? h)
  exact mem_filter.mp hmem

def versionKey (a : ArtifactRecord) : String := a.identity ++ "@" ++ toString a.version

theorem evaluate_single {d : RegisteredDependency} (hrequires : d.requires = [matcher]) :
    evaluateDependencySatisfaction t artifacts d =
      (selectLatestMatchingArtifact t artifacts matcher).map fun a => ⟨[a], versionKey a⟩ := by
  unfold evaluateDependencySatisfaction
  rw [hrequires]
  cases hselect : selectLatestMatchingArtifact t artifacts matcher with
  | none => simp [hselect]
  | some a => simp [hselect, sortBy, versionKey]

end Latest

section Versions

variable {t : Texts} {artifacts : List ArtifactRecord} {input : ArtifactInput}
  {r : ArtifactRecord}

def Versioned (artifacts : List ArtifactRecord) : Prop :=
  ∀ identity, (identified artifacts identity).map ArtifactRecord.version =
    countedVersions (identified artifacts identity).length

theorem Versioned.bound (h : Versioned artifacts) {a : ArtifactRecord} (ha : a ∈ artifacts) :
    1 ≤ a.version ∧ a.version ≤ (identified artifacts a.identity).length := by
  rw [← mem_countedVersions, ← h]
  exact mem_map_of_mem (mem_filter.mpr ⟨ha, decide_eq_true rfl⟩)

theorem publishArtifact_version (h : Versioned artifacts) (hversion : input.version = none)
    (hpublish : publishArtifact t artifacts input = some r) :
    r.version = (identified artifacts r.identity).length + 1 := by
  unfold publishArtifact at hpublish
  dsimp only at hpublish
  split at hpublish
  · cases hpublish
  · cases hpublish
    have hlast := congrArg List.getLast? (h (artifactIdentity input.type input.key))
    rw [getLast?_map] at hlast
    rw [hversion, getD_none, find?_reverse_identity, hlast, countedVersions_getLast?]
    rfl

theorem Versioned.publish (h : Versioned artifacts) (hversion : input.version = none)
    (hpublish : publishArtifact t artifacts input = some r) : Versioned (artifacts ++ [r]) := by
  intro identity
  rw [identified_append]
  split
  case isTrue hid =>
    subst hid
    rw [map_append, h, length_append, length_singleton, countedVersions_succ,
      map_singleton, publishArtifact_version h hversion hpublish]
  case isFalse => rw [append_nil, h]

theorem versionKey_inj {a b : ArtifactRecord} (ha : 0 ≤ a.version) (hb : 0 ≤ b.version)
    (h : versionKey a = versionKey b) : a.identity = b.identity ∧ a.version = b.version := by
  unfold versionKey at h
  rw [← Int.toNat_of_nonneg ha, ← Int.toNat_of_nonneg hb] at h
  obtain ⟨hid, hversion⟩ := artifactId_inj h
  exact ⟨hid, by rw [← Int.toNat_of_nonneg ha, hversion, Int.toNat_of_nonneg hb]⟩

theorem versionKey_fresh (h : Versioned artifacts) (hversion : input.version = none)
    (hpublish : publishArtifact t artifacts input = some r) {a : ArtifactRecord}
    (ha : a ∈ artifacts) : versionKey a ≠ versionKey r := by
  intro hkey
  obtain ⟨hlow, hhigh⟩ := h.bound ha
  have hnext := publishArtifact_version h hversion hpublish
  obtain ⟨hid, heq⟩ := versionKey_inj (by omega) (by omega) hkey
  rw [hid] at hhigh
  omega

theorem not_mem_of_publish (h : Versioned artifacts) (hversion : input.version = none)
    (hpublish : publishArtifact t artifacts input = some r) : r ∉ artifacts :=
  fun hr => versionKey_fresh h hversion hpublish hr rfl

end Versions

section Sound

variable {t : Texts} {now : Int} {s : LatticeState} {m : LatticeMessage}

/-- The message as it is typed: an artifact is published without an id and a version. -/
def Typed : LatticeMessage → Prop
  | .publishArtifact input => input.artifactId = none ∧ input.version = none
  | _ => True

structure Sound (s : LatticeState) : Prop where
  settled : Settled s
  unique : (s.dependencies.map RegisteredDependency.dependencyId).Nodup
  versioned : Versioned s.artifacts

theorem Sound.next (h : Sound s) (hm : Typed m) : Sound (nextState t s m) := by
  refine ⟨settled_nextState h.settled m, ?_, ?_⟩
  all_goals
    obtain ⟨hstate, -⟩ | ⟨withdrawn, -, -, hstate⟩ | ⟨emit, -, -, hr⟩ :=
      turn_cases (t := t) (m := m) h.settled
  · rw [hstate]
    exact h.unique
  · rw [hstate]
    exact (filter_sublist.map _).nodup h.unique
  · generalize nextState t s m = s' at hr
    cases hr with
    | silent _ _ | checked now | acknowledged _ _ _ _ _ | published new keys fresh delivered =>
      exact h.unique
    | registered new keys input delivered => exact unique_withDependency h.unique
    | withdrawn withdrawn => exact (filter_sublist.map _).nodup h.unique
  · rw [hstate]
    exact h.versioned
  · rw [hstate]
    exact h.versioned
  · generalize nextState t s m = s' at hr
    cases hr with
    | silent _ _ | checked now | registered new keys input delivered | withdrawn withdrawn
    | acknowledged _ _ _ _ _ => exact h.versioned
    | published new keys fresh delivered => exact h.versioned.publish hm.2 fresh

theorem sound_history (t : Texts) (latticeId : String) (timeoutMs : Option Int)
    {messages : List LatticeMessage} (hmessages : ∀ m ∈ messages, Typed m) :
    Sound (history t latticeId timeoutMs messages).state := by
  induction messages using List.reverseRecOn with
  | nil => exact ⟨settled_createLatticeState latticeId timeoutMs, nodup_nil, fun _ => rfl⟩
  | append_singleton messages m ih =>
    rw [history, foldl_concat]
    exact (ih fun m' hm' => hmessages m' (mem_append_left _ hm')).next
      (hmessages m (mem_append_right _ mem_cons_self))

end Sound

section Heeds

variable {t : Texts} {now : Int} {s : LatticeState} {d : RegisteredDependency}
  {matcher : ArtifactMatcher} {r : ArtifactRecord} {input : ArtifactInput}
  {keys keys' : DeliveredKeys} {activations new : List LatticeActivationRecord}

theorem recordAll_mem (h : recordAll keys activations = some keys') {dependencyId key : String}
    {delivered : List String} (hget : keys'.get dependencyId = some delivered)
    (hkey : key ∈ delivered) : (∃ before, keys.get dependencyId = some before ∧ key ∈ before) ∨
      ∃ a ∈ activations, a.dependencyId = dependencyId ∧ a.satisfactionKey = key := by
  induction activations generalizing keys with
  | nil =>
    cases h
    exact .inl ⟨delivered, hget, hkey⟩
  | cons a activations ih =>
    rw [recordAll_cons] at h
    obtain ⟨keys₁, happend, hrest⟩ := bind_eq_some_iff.mp h
    obtain ⟨before, hbefore, hmem⟩ | ⟨b, hb, hid⟩ := ih hrest
    · obtain ⟨rfl, -⟩ | ⟨earlier, rfl, hearlier⟩ := appendDeliveredKey_cases happend
      · exact .inl ⟨before, hbefore, hmem⟩
      · rw [OrderedMap.get_set] at hbefore
        by_cases hid : dependencyId = a.dependencyId
        · rw [if_pos hid] at hbefore
          cases hbefore
          obtain hmem | hmem := mem_append.mp hmem
          · obtain hown | ⟨rfl, -⟩ := hearlier
            · exact .inl ⟨earlier, hid ▸ hown, hmem⟩
            · exact absurd hmem not_mem_nil
          · exact .inr ⟨a, mem_cons_self, hid.symm, (mem_singleton.mp hmem).symm⟩
        · rw [if_neg hid] at hbefore
          exact .inl ⟨before, hbefore, hmem⟩
    · exact .inr ⟨b, mem_cons_of_mem _ hb, hid⟩

/-- The dependency is registered for every version, with one matcher. What was delivered for it are
versions in the store. -/
structure Heeds (d : RegisteredDependency) (matcher : ArtifactMatcher) (s : LatticeState) :
    Prop extends Sound s where
  registered : d ∈ s.dependencies
  mode : d.mode = .everyVersion
  requires : d.requires = [matcher]
  seen : ∀ delivered, s.deliveredSatisfactionKeys.get d.dependencyId = some delivered →
    ∀ key ∈ delivered, ∃ a ∈ s.artifacts, key = versionKey a

theorem toQueue_single (hrequires : d.requires = [matcher])
    {activation : LatticeActivationRecord} (h : toQueue t now s d = some (some activation)) :
    ∃ a, selectLatestMatchingArtifact t s.artifacts matcher = some a ∧ a ∈ s.artifacts ∧
      activation.artifacts = [a] ∧ activation.satisfactionKey = versionKey a ∧
      ¬ Recorded s.deliveredSatisfactionKeys activation := by
  obtain ⟨satisfaction, heval, rfl, hemits, -⟩ := toQueue_eq_some h
  rw [evaluate_single hrequires] at heval
  obtain ⟨a, hselect, rfl⟩ := map_eq_some_iff.mp heval
  refine ⟨a, hselect, (selectLatest_mem hselect).1, rfl, rfl, fun hrecorded => ?_⟩
  exact absurd ((not_shouldEmitSatisfaction hrecorded rfl).symm.trans hemits) (by decide)

theorem Heeds.toQueue_new (h : Heeds d matcher s) (hversion : input.version = none)
    (hpublish : publishArtifact t s.artifacts input = some r)
    (hselect : selectLatestMatchingArtifact t (s.artifacts ++ [r]) matcher = some r)
    {queued : Option LatticeActivationRecord}
    (hqueued : toQueue t now (withArtifact s r) d = some queued) :
    queued = some (pendingActivation d ⟨[r], versionKey r⟩ now) := by
  have hfresh : ∀ delivered, s.deliveredSatisfactionKeys.get d.dependencyId = some delivered →
      versionKey r ∉ delivered := by
    intro delivered hget hmem
    obtain ⟨a, ha, hkey⟩ := h.seen delivered hget _ hmem
    exact versionKey_fresh h.versioned hversion hpublish ha hkey.symm
  have hblocked : blocked s.activations (activationIdFor d.dependencyId (versionKey r)) = false := by
    unfold blocked
    rw [find?_eq_none.mpr, any_none]
    intro a ha hid
    rw [decide_eq_true_eq, h.settled.named a ha] at hid
    obtain ⟨hdep, hkey⟩ := activationIdFor_inj hid
    obtain ⟨delivered, hget, hmem⟩ := h.settled.recorded a ha
    exact hfresh delivered (hdep ▸ hget) (hkey ▸ hmem)
  have heval : evaluateDependencySatisfaction t (withArtifact s r).artifacts d =
      some ⟨[r], versionKey r⟩ := by
    rw [evaluate_single h.requires]
    exact congrArg _ hselect
  unfold toQueue at hqueued
  rw [heval] at hqueued
  obtain ⟨emits, hemits, rfl⟩ := map_eq_some_iff.mp hqueued
  have htrue : emits = true := by
    unfold shouldEmitSatisfaction at hemits
    rw [h.mode] at hemits
    cases hproperty : (withArtifact s r).deliveredSatisfactionKeys.property d.dependencyId with
    | own delivered =>
      rw [hproperty] at hemits
      exact (some.inj hemits).symm.trans
        (decide_eq_true (hfresh delivered (property_eq_own hproperty)))
    | missing =>
      rw [hproperty] at hemits
      exact (some.inj hemits).symm
    | inherited =>
      rw [hproperty] at hemits
      cases hemits
  refine if_neg ?_
  rw [htrue]
  exact not_or.mpr ⟨Bool.noConfusion, fun hb => absurd (hb.symm.trans hblocked) (by decide)⟩

end Heeds

section Publications

variable {t : Texts} {s : LatticeState} {d : RegisteredDependency} {matcher : ArtifactMatcher}
  {r x : ArtifactRecord} {input : ArtifactInput} {inputs : List ArtifactInput}

def LatticeEvent.activates (dependencyId : String) (artifact : ArtifactRecord) :
    LatticeEvent → Bool
  | .dependencySatisfied _ id _ _ _ artifacts => id = dependencyId && artifact ∈ artifacts
  | .activationTimedOut _ _ _ _ _ | .artifactPublished _ => false

def Turn.activations (turn : Turn) (dependencyId : String) (artifact : ArtifactRecord) : Nat :=
  turn.events.countP (·.activates dependencyId artifact)

def afterPublications (t : Texts) (s : LatticeState) (inputs : List ArtifactInput) :
    LatticeState :=
  inputs.foldl (fun s input => nextState t s (.publishArtifact input)) s

def publicationTurns (t : Texts) : LatticeState → List ArtifactInput → List Turn
  | _, [] => []
  | s, input :: inputs =>
    turnOf t s (.publishArtifact input) ::
      publicationTurns t (nextState t s (.publishArtifact input)) inputs

theorem publicationTurns_append (inputs more : List ArtifactInput) :
    publicationTurns t s (inputs ++ more) =
      publicationTurns t s inputs ++ publicationTurns t (afterPublications t s inputs) more := by
  induction inputs generalizing s with
  | nil => rfl
  | cons input inputs ih => exact congrArg (_ :: ·) ih

/-- What a publication does for the dependency: nothing, where nothing is published, or else it
activates at most the artifact that is then selected. -/
inductive Published (t : Texts) (d : RegisteredDependency) (matcher : ArtifactMatcher)
    (s : LatticeState) (input : ArtifactInput) : LatticeState → Turn → Prop
  | nothing (turn : Turn) (events : turn.events = []) : Published t d matcher s input s turn
  | artifact (r : ArtifactRecord) (new : List LatticeActivationRecord) (keys : DeliveredKeys)
      (queued : Option LatticeActivationRecord) (turn : Turn)
      (fresh : publishArtifact t s.artifacts input = some r)
      (events : turn.events = .artifactPublished r :: new.map satisfied)
      (delivered : Delivered t (withArtifact s r) (impactedDependencies s.dependencies r)
        r.publishedAt new keys)
      (own : activationsOf new d.dependencyId = queued.toList)
      (first : ∀ activation, queued = some activation →
        ∃ a, selectLatestMatchingArtifact t (s.artifacts ++ [r]) matcher = some a ∧
          a ∈ s.artifacts ++ [r] ∧ activation.artifacts = [a] ∧
          activation.satisfactionKey = versionKey a ∧
          ¬ Recorded s.deliveredSatisfactionKeys activation)
      (latest : selectLatestMatchingArtifact t (s.artifacts ++ [r]) matcher = some r →
        queued = some (pendingActivation d ⟨[r], versionKey r⟩ r.publishedAt)) :
      Published t d matcher s input
        (delivery (withArtifact s r) r.publishedAt new keys).state turn

theorem Heeds.impacted (h : Heeds d matcher s)
    (hselect : selectLatestMatchingArtifact t (s.artifacts ++ [r]) matcher = some r) :
    d ∈ impactedDependencies s.dependencies r := by
  refine mem_filter.mpr ⟨h.registered, ?_⟩
  have hmatch := (selectLatest_mem hselect).2
  unfold matcherMatchesArtifact at hmatch
  rw [Bool.and_eq_true, Bool.and_eq_true] at hmatch
  rw [h.requires, any_cons, any_nil, Bool.or_false]
  exact decide_eq_true (of_decide_eq_true hmatch.1.1).symm

theorem Heeds.published (h : Heeds d matcher s) (hversion : input.version = none) :
    Published t d matcher s input (nextState t s (.publishArtifact input))
      (turnOf t s (.publishArtifact input)) := by
  obtain ⟨hstate, hturn⟩ | ⟨withdrawn, hm, -⟩ | ⟨emit, -, hturn, hr⟩ :=
    turn_cases (t := t) (m := .publishArtifact input) h.settled
  · rw [hstate]
    exact .nothing _ (by rw [hturn]; rfl)
  · cases hm
  · have hevents : (turnOf t s (.publishArtifact input)).events = emit := by
      rw [hturn]
      rfl
    generalize nextState t s (.publishArtifact input) = s' at hr
    generalize turnOf t s (.publishArtifact input) = turn at hevents
    cases hr with
    | silent _ _ => exact .nothing turn hevents
    | @published _ r new keys fresh delivered =>
      have hunique : ((impactedDependencies s.dependencies r).map
          RegisteredDependency.dependencyId).Nodup :=
        (filter_sublist.map _).nodup h.unique
      obtain ⟨hnew, heach⟩ := delivered.each hunique
      by_cases himpacted : d ∈ impactedDependencies s.dependencies r
      · obtain ⟨queued, hqueued, hown⟩ := heach d himpacted
        refine .artifact r new keys queued turn fresh hevents delivered hown ?_ fun hselect =>
          h.toQueue_new hversion fresh hselect hqueued
        rintro activation rfl
        exact toQueue_single h.requires hqueued
      · have hown : activationsOf new d.dependencyId = [] := by
          refine activationsOf_eq_nil.mpr fun a ha hid => himpacted ?_
          obtain ⟨d', hd', hid'⟩ := hnew a ha
          have hmem : d' ∈ s.dependencies := mem_of_mem_filter hd'
          rwa [← inj_on_of_nodup_map h.unique hmem h.registered (hid'.symm.trans hid)]
        exact .artifact r new keys none turn fresh hevents delivered hown
          (fun _ heq => (by cases heq)) fun hselect => absurd (h.impacted hselect) himpacted

theorem countP_activates {new : List LatticeActivationRecord} {dependencyId : String} :
    (LatticeEvent.artifactPublished r :: new.map satisfied).countP (·.activates dependencyId x) =
      (activationsOf new dependencyId).countP fun a => x ∈ a.artifacts := by
  rw [countP_cons_of_neg Bool.false_ne_true, countP_map, activationsOf, countP_filter]
  refine countP_congr fun a _ => ?_
  change (decide (a.dependencyId = dependencyId) && decide (x ∈ a.artifacts)) = true ↔ _
  rw [Bool.and_eq_true, Bool.and_eq_true, and_comm]

variable {s' : LatticeState} {turn : Turn}

def VersionDelivered (d : RegisteredDependency) (x : ArtifactRecord) (s : LatticeState) : Prop :=
  ∃ delivered, s.deliveredSatisfactionKeys.get d.dependencyId = some delivered ∧
    versionKey x ∈ delivered

theorem Published.subset (h : Published t d matcher s input s' turn) :
    s.artifacts ⊆ s'.artifacts := by
  cases h with
  | nothing _ _ => exact List.Subset.refl _
  | artifact r new keys queued _ fresh events delivered own first latest =>
    exact subset_append_left ..

theorem Published.registered (h : Published t d matcher s input s' turn) :
    s'.dependencies = s.dependencies := by
  cases h with
  | nothing _ _ => rfl
  | artifact r new keys queued _ fresh events delivered own first latest => rfl

theorem Published.seen (h : Published t d matcher s input s' turn) (hs : Heeds d matcher s)
    {delivered : List String} (hget : s'.deliveredSatisfactionKeys.get d.dependencyId = some delivered)
    {key : String} (hkey : key ∈ delivered) : ∃ a ∈ s'.artifacts, key = versionKey a := by
  cases h with
  | nothing _ _ => exact hs.seen delivered hget key hkey
  | artifact r new keys queued _ fresh events hdelivered own first latest =>
    obtain ⟨before, hbefore, hmem⟩ | ⟨activation, hmem, hid, rfl⟩ :=
      recordAll_mem hdelivered.record hget hkey
    · obtain ⟨a, ha, hkey⟩ := hs.seen before hbefore key hmem
      exact ⟨a, mem_append_left _ ha, hkey⟩
    · have hown : activation ∈ queued.toList :=
        own ▸ mem_filter.mpr ⟨hmem, decide_eq_true hid⟩
      obtain ⟨a, -, ha, -, hkey, -⟩ := first activation (mem_toList.mp hown)
      exact ⟨a, ha, hkey⟩

theorem Heeds.next (h : Heeds d matcher s) (hinput : Typed (.publishArtifact input)) :
    Heeds d matcher (nextState t s (.publishArtifact input)) := by
  have hp := h.published (t := t) hinput.2
  refine ⟨h.toSound.next hinput, hp.registered.symm ▸ h.registered, h.mode, h.requires, ?_⟩
  exact fun delivered hget key hkey => hp.seen h hget hkey

theorem Published.activations_pos (h : Published t d matcher s input s' turn)
    (hx : turn.activations d.dependencyId x ≠ 0) : x ∈ s'.artifacts ∧ ¬ VersionDelivered d x s := by
  cases h with
  | nothing _ events =>
    rw [Turn.activations, events] at hx
    exact absurd rfl hx
  | artifact r new keys queued _ fresh events delivered own first latest =>
    rw [Turn.activations, events, countP_activates, own] at hx
    cases queued with
    | none => exact absurd rfl hx
    | some activation =>
      obtain ⟨a, -, ha, hartifacts, hkey, hnew⟩ := first activation rfl
      have hmem : x = a := by
        by_contra hne
        rw [toList_some, countP_singleton, hartifacts] at hx
        simp [hne] at hx
      subst hmem
      refine ⟨ha, ?_⟩
      rintro ⟨keys', hget, hkey'⟩
      refine hnew ⟨keys', ?_, hkey ▸ hkey'⟩
      have hid : activation.dependencyId = d.dependencyId := by
        have hown : activation ∈ activationsOf new d.dependencyId := by
          rw [own]
          exact mem_singleton.mpr rfl
        exact of_decide_eq_true (mem_filter.mp hown).2
      rw [hid]
      exact hget

theorem Published.stays_delivered (h : Published t d matcher s input s' turn)
    (hx : VersionDelivered d x s) : VersionDelivered d x s' := by
  cases h with
  | nothing _ _ => exact hx
  | artifact r new keys queued _ fresh events delivered own first latest =>
    obtain ⟨keys', hget, hkey⟩ := hx
    exact (recordAll_spec delivered.record).1 (pendingActivation d ⟨[x], versionKey x⟩ 0)
      ⟨keys', hget, hkey⟩

theorem Published.activations_eq_one_iff (h : Published t d matcher s input s' turn)
    (hs : Heeds d matcher s) (hversion : input.version = none)
    (hr : .artifactPublished r ∈ turn.events) (hmatch : matcherMatchesArtifact t r matcher = true) :
    r ∉ s.artifacts ∧
      (turn.activations d.dependencyId r = 1 ↔ LatestOf t matcher s.artifacts r) ∧
      (LatestOf t matcher s.artifacts r → VersionDelivered d r s') := by
  cases h with
  | nothing _ events =>
    rw [events] at hr
    exact absurd hr not_mem_nil
  | artifact r' new keys queued _ fresh events delivered own first latest =>
    have hsame : r = r' := by
      rw [events] at hr
      obtain hr | hr := mem_cons.mp hr
      · exact LatticeEvent.artifactPublished.inj hr
      · obtain ⟨a, -, ha⟩ := mem_map.mp hr
        cases ha
    subst hsame
    have hfresh := not_mem_of_publish hs.versioned hversion fresh
    rw [← selectLatest_concat hfresh hmatch]
    refine ⟨hfresh, ⟨fun hone => ?_, fun hselect => ?_⟩, fun hselect => ?_⟩
    · rw [Turn.activations, events, countP_activates, own] at hone
      cases queued with
      | none => cases hone
      | some activation =>
        obtain ⟨a, hselect, -, hartifacts, -⟩ := first activation rfl
        have hra : r = a := by
          by_contra hne
          rw [toList_some, countP_singleton, hartifacts] at hone
          simp [hne] at hone
        rw [hra]
        rwa [hra] at hselect
    · rw [Turn.activations, events, countP_activates, own, latest hselect]
      simp [pendingActivation]
    · have hqueued := latest hselect
      have hmem : pendingActivation d ⟨[r], versionKey r⟩ r.publishedAt ∈ new := by
        have hown : pendingActivation d ⟨[r], versionKey r⟩ r.publishedAt ∈
            activationsOf new d.dependencyId := by
          rw [own, hqueued]
          exact mem_singleton.mpr rfl
        exact mem_of_mem_filter hown
      exact (recordAll_spec delivered.record).2.1 _ hmem

/-- How many activations of the dependency contain the artifact, over some turns. -/
def activationsIn (turns : List Turn) (dependencyId : String) (x : ArtifactRecord) : Nat :=
  (turns.map fun turn => turn.activations dependencyId x).sum

theorem Heeds.run (h : Heeds d matcher s) (hinputs : ∀ i ∈ inputs, Typed (.publishArtifact i)) :
    Heeds d matcher (afterPublications t s inputs) := by
  induction inputs generalizing s with
  | nil => exact h
  | cons input inputs ih =>
    exact ih (h.next (hinputs input mem_cons_self))
      fun i hi => hinputs i (mem_cons_of_mem _ hi)

theorem Heeds.run_subset (h : Heeds d matcher s) (hinputs : ∀ i ∈ inputs, Typed (.publishArtifact i)) :
    s.artifacts ⊆ (afterPublications t s inputs).artifacts := by
  induction inputs generalizing s with
  | nil => exact List.Subset.refl _
  | cons input inputs ih =>
    have hinput := hinputs input mem_cons_self
    exact List.Subset.trans (h.published hinput.2).subset
      (ih (h.next hinput) fun i hi => hinputs i (mem_cons_of_mem _ hi))

theorem Heeds.none_before (h : Heeds d matcher s)
    (hinputs : ∀ i ∈ inputs, Typed (.publishArtifact i))
    (hx : x ∉ (afterPublications t s inputs).artifacts) :
    activationsIn (publicationTurns t s inputs) d.dependencyId x = 0 := by
  induction inputs generalizing s with
  | nil => rfl
  | cons input inputs ih =>
    have hinput := hinputs input mem_cons_self
    have hrest : ∀ i ∈ inputs, Typed (.publishArtifact i) :=
      fun i hi => hinputs i (mem_cons_of_mem _ hi)
    have hfirst : (turnOf t s (.publishArtifact input)).activations d.dependencyId x = 0 := by
      by_contra hne
      have hmem := ((h.published (t := t) hinput.2).activations_pos hne).1
      exact hx ((h.next hinput).run_subset hrest hmem)
    rw [activationsIn, publicationTurns, map_cons, sum_cons, hfirst, Nat.zero_add]
    exact ih (h.next hinput) hrest hx

theorem Heeds.none_after (h : Heeds d matcher s)
    (hinputs : ∀ i ∈ inputs, Typed (.publishArtifact i)) (hx : VersionDelivered d x s) :
    activationsIn (publicationTurns t s inputs) d.dependencyId x = 0 := by
  induction inputs generalizing s with
  | nil => rfl
  | cons input inputs ih =>
    have hinput := hinputs input mem_cons_self
    have hp := h.published (t := t) hinput.2
    have hfirst : (turnOf t s (.publishArtifact input)).activations d.dependencyId x = 0 := by
      by_contra hne
      exact (hp.activations_pos hne).2 hx
    rw [activationsIn, publicationTurns, map_cons, sum_cons, hfirst, Nat.zero_add]
    exact ih (h.next hinput) (fun i hi => hinputs i (mem_cons_of_mem _ hi))
      (hp.stays_delivered hx)

end Publications

section EveryVersion

variable {t : Texts} {s : LatticeState} {d : RegisteredDependency} {matcher : ArtifactMatcher}
  {r : ArtifactRecord} {dependency : DependencyInput} {registeredAt : Option Int}

theorem Sound.registered (h : Sound s) (hmode : dependency.mode = some .everyVersion)
    (hrequires : dependency.requires = [matcher])
    (hdone : (turnOf t s (.registerDependency dependency registeredAt)).emit.isSome = true) :
    Heeds (createRegisteredDependency t dependency) matcher
      (nextState t s (.registerDependency dependency registeredAt)) := by
  have hsound := h.next (t := t) (m := .registerDependency dependency registeredAt) trivial
  have hd : (createRegisteredDependency t dependency).mode = .everyVersion := by
    rw [createRegisteredDependency, hmode]
    rfl
  obtain ⟨-, hturn⟩ | ⟨withdrawn, hm, -⟩ | ⟨emit, -, -, hr⟩ :=
    turn_cases (t := t) (m := .registerDependency dependency registeredAt) h.settled
  · rw [hturn] at hdone
    cases hdone
  · cases hm
  · generalize nextState t s (.registerDependency dependency registeredAt) = s' at hr hsound
    cases hr with
    | silent _ nothing => exact absurd rfl (nothing _ _)
    | @registered _ _ d new keys input delivered =>
      subst input
      refine ⟨hsound, mem_withDependency.mpr (.inr rfl), hd, hrequires, ?_⟩
      intro keys' hget key hkey
      obtain ⟨before, hbefore, -⟩ | ⟨activation, hmem, hid, rfl⟩ :=
        recordAll_mem delivered.record hget hkey
      · have hnone := (OrderedMap.get_delete s.deliveredSatisfactionKeys
          (createRegisteredDependency t dependency).dependencyId _).trans (if_pos rfl)
        exact absurd (hnone.symm.trans hbefore) (by simp)
      · obtain ⟨-, heach⟩ := delivered.each (nodup_singleton _)
        obtain ⟨queued, hqueued, hown⟩ := heach _ (mem_singleton.mpr rfl)
        have hmem : activation ∈ queued.toList :=
          hown ▸ mem_filter.mpr ⟨hmem, decide_eq_true hid⟩
        rw [mem_toList.mp hmem] at hqueued
        obtain ⟨a, -, ha, -, hkey, -⟩ := toQueue_single hrequires hqueued
        exact ⟨a, ha, hkey⟩

theorem Heeds.activated_iff (h : Heeds d matcher s) {done rest : List ArtifactInput}
    {input : ArtifactInput} (hinputs : ∀ i ∈ done ++ input :: rest, Typed (.publishArtifact i))
    (hr : .artifactPublished r ∈
      (turnOf t (afterPublications t s done) (.publishArtifact input)).events)
    (hmatch : matcherMatchesArtifact t r matcher = true) :
    ((turnOf t (afterPublications t s done) (.publishArtifact input)).activations
          d.dependencyId r = 1 ∧
        activationsIn (publicationTurns t s (done ++ input :: rest)) d.dependencyId r = 1) ↔
      LatestOf t matcher (afterPublications t s done).artifacts r := by
  have hdone : ∀ i ∈ done, Typed (.publishArtifact i) :=
    fun i hi => hinputs i (mem_append_left _ hi)
  have hinput := hinputs input (mem_append_right _ mem_cons_self)
  have hrest : ∀ i ∈ rest, Typed (.publishArtifact i) :=
    fun i hi => hinputs i (mem_append_right _ (mem_cons_of_mem _ hi))
  have hnow := h.run (t := t) hdone
  obtain ⟨hfresh, hone, hdelivered⟩ :=
    (hnow.published hinput.2).activations_eq_one_iff hnow hinput.2 hr hmatch
  refine ⟨fun hboth => hone.mp hboth.1, fun hlatest => ⟨hone.mpr hlatest, ?_⟩⟩
  have hbefore := h.none_before hdone hfresh
  have hafter := (hnow.next (t := t) hinput).none_after (t := t) hrest (hdelivered hlatest)
  unfold activationsIn at hbefore hafter ⊢
  rw [publicationTurns_append, map_append, sum_append, publicationTurns, map_cons,
    sum_cons, hbefore, hafter, hone.mpr hlatest]

end EveryVersion

section Query

variable {t : Texts} {artifacts : List ArtifactRecord} {a last : ArtifactRecord} {type : String}
  {key : Option String}

/-- No artifact of the type and key has a later time than the last one that was published, and none
of its identity was published after it. -/
def LastIsLatest (artifacts : List ArtifactRecord) (type : String) (key : Option String) : Prop :=
  ∀ last, lastOf artifacts type key = some last →
    (identified artifacts last.identity).getLast? = some last ∧
      ∀ a ∈ artifactsOf artifacts type key, a.publishedAt ≤ last.publishedAt

theorem getLast?_filter {α : Type} {p : α → Bool} {values : List α} {last : α}
    (h : values.getLast? = some last) (hp : p last = true) :
    (values.filter p).getLast? = some last := by
  obtain ⟨before, rfl⟩ := getLast?_eq_some_iff.mp h
  rw [filter_append, filter_singleton, hp]
  exact getLast?_concat

theorem lastOf_of_identified (h : (identified artifacts a.identity).getLast? = some a) :
    lastOf artifacts a.type a.key = some a := by
  have hown : artifactsOf artifacts a.type a.key =
      (identified artifacts a.identity).filter fun b => b.type = a.type ∧ b.key = a.key := by
    unfold artifactsOf identified
    rw [filter_filter]
    refine filter_congr fun b _ => ?_
    by_cases hb : b.type = a.type ∧ b.key = a.key
    · simp [hb, ArtifactRecord.identity]
    · simp [hb]
  rw [lastOf, hown]
  exact getLast?_filter h (by simp)

theorem lastOf_mem (h : lastOf artifacts type key = some last) :
    last ∈ artifacts ∧ last.type = type ∧ last.key = key := by
  obtain ⟨hmem, hof⟩ := mem_filter.mp (mem_of_getLast? h)
  exact ⟨hmem, of_decide_eq_true hof⟩

theorem Versioned.nodup_identified (h : Versioned artifacts) (identity : String) :
    ((identified artifacts identity).map ArtifactRecord.version).Nodup := by
  rw [h, countedVersions]
  exact nodup_range.map fun i j hij => by simpa using hij

theorem Versioned.nodup (h : Versioned artifacts) : artifacts.Nodup := by
  refine nodup_iff_count_le_one.mpr fun a => ?_
  have hcount : (identified artifacts a.identity).count a = artifacts.count a :=
    count_filter (decide_eq_true rfl)
  rw [← hcount]
  exact nodup_iff_count_le_one.mp (List.Nodup.of_map _ (h.nodup_identified a.identity)) a

theorem Versioned.version_lt (h : Versioned artifacts)
    (hlast : (identified artifacts last.identity).getLast? = some last) (ha : a ∈ artifacts)
    (hid : a.identity = last.identity) (hne : a ≠ last) : a.version < last.version := by
  have hversions := h last.identity
  have hmem : a ∈ identified artifacts last.identity :=
    mem_filter.mpr ⟨ha, decide_eq_true hid⟩
  have htop : last.version = (identified artifacts last.identity).length := by
    have heq := congrArg List.getLast? hversions
    rw [getLast?_map, hlast] at heq
    have hcount := countedVersions_getLast? (identified artifacts last.identity).length
    rw [← heq] at hcount
    exact hcount
  have hle := (h.bound ha).2
  rw [hid, ← htop] at hle
  refine lt_of_le_of_ne hle fun heq => hne ?_
  exact inj_on_of_nodup_map (h.nodup_identified last.identity) hmem
    (mem_of_getLast? hlast) heq

theorem compareArtifacts_eq_gt (h : a.version < last.version) :
    compareArtifacts t a last = .gt ↔ a.publishedAt ≤ last.publishedAt := by
  unfold compareArtifacts
  by_cases htime : a.publishedAt = last.publishedAt
  · rw [if_neg (not_not.mpr htime), if_pos h.ne, Int.compare_eq_gt]
    exact iff_of_true h htime.le
  · rw [if_pos htime, Int.compare_eq_gt]
    omega

theorem matches_type_key (a : ArtifactRecord) (type : String) (key : String) :
    matcherMatchesArtifact t a ⟨type, some key, none⟩ =
      decide (a.type = type ∧ a.key = some key) := by
  simp [matcherMatchesArtifact]

theorem mem_queryArtifacts {key : String} :
    a ∈ queryArtifacts t artifacts ⟨some type, some key, false⟩ ∧ a.type = type ↔
      (identified artifacts a.identity).getLast? = some a ∧ a.type = type ∧ a.key = some key := by
  unfold queryArtifacts
  rw [mem_filter, if_neg Bool.false_ne_true, mem_getLatestArtifacts]
  constructor
  · rintro ⟨⟨hlast, hquery⟩, htype⟩
    rw [Bool.and_eq_true] at hquery
    exact ⟨hlast, htype, of_decide_eq_true hquery.2⟩
  · rintro ⟨hlast, htype, hkey⟩
    exact ⟨⟨hlast, by simp [htype, hkey]⟩, htype⟩

theorem Versioned.selected_iff (h : Versioned artifacts) {key : String} :
    (∀ a, selectLatestMatchingArtifact t artifacts ⟨type, some key, none⟩ = some a ↔
        a ∈ queryArtifacts t artifacts ⟨some type, some key, false⟩ ∧ a.type = type) ↔
      LastIsLatest artifacts type (some key) := by
  have hmatching : (artifacts.filter fun a =>
      matcherMatchesArtifact t a ⟨type, some key, none⟩) = artifactsOf artifacts type (some key) :=
    filter_congr fun a _ => matches_type_key a type key
  have hsome : ∀ last, lastOf artifacts type (some key) = some last →
      (selectLatestMatchingArtifact t artifacts ⟨type, some key, none⟩).isSome = true := by
    intro last hlast
    obtain ⟨hmem, hof⟩ := lastOf_mem hlast
    refine selectLatestMatchingArtifact_isSome.mpr ⟨last, hmem, ?_⟩
    rw [matches_type_key]
    exact decide_eq_true hof
  have hselected : ∀ last, lastOf artifacts type (some key) = some last →
      (selectLatestMatchingArtifact t artifacts ⟨type, some key, none⟩ = some last ↔
        LatestOf t ⟨type, some key, none⟩ artifacts last) := by
    intro last hlast
    obtain ⟨others, hothers⟩ := getLast?_eq_some_iff.mp hlast
    have hnodup : (artifactsOf artifacts type (some key)).Nodup := h.nodup.filter _
    rw [hothers, nodup_append] at hnodup
    refine selectLatest_eq_last (fun hmem => ?_) (hmatching.trans hothers)
    exact hnodup.2.2 last hmem last (mem_singleton.mpr rfl) rfl
  have hbelow : ∀ last, lastOf artifacts type (some key) = some last →
      (identified artifacts last.identity).getLast? = some last →
      ∀ a ∈ artifactsOf artifacts type (some key), a ≠ last →
        (compareArtifacts t a last = .gt ↔ a.publishedAt ≤ last.publishedAt) := by
    intro last hlast hid a ha hne
    obtain ⟨hmem, hof⟩ := mem_filter.mp ha
    obtain ⟨htype, hkey⟩ := of_decide_eq_true hof
    obtain ⟨-, htype', hkey'⟩ := lastOf_mem hlast
    have hsame : a.identity = last.identity := by
      rw [ArtifactRecord.identity, ArtifactRecord.identity, htype, hkey, htype', hkey']
    exact compareArtifacts_eq_gt (h.version_lt hid hmem hsame hne)
  constructor
  · intro hall last hlast
    obtain ⟨a, ha⟩ := isSome_iff_exists.mp (hsome last hlast)
    obtain ⟨hid, htype, hkey⟩ := mem_queryArtifacts.mp ((hall a).mp ha)
    have hown := lastOf_of_identified hid
    rw [htype, hkey, hlast] at hown
    cases hown
    refine ⟨hid, fun b hb => ?_⟩
    by_cases hne : b = last
    · rw [hne]
    · obtain ⟨hmem, hof⟩ := mem_filter.mp hb
      exact (hbelow last hlast hid b hb hne).mp ((hselected last hlast).mp ha b hmem
        ((matches_type_key b type key).trans hof) hne)
  · intro hlatest a
    cases hlast : lastOf artifacts type (some key) with
    | none =>
      have hnone : artifactsOf artifacts type (some key) = [] := getLast?_eq_none_iff.mp hlast
      refine iff_of_false (fun hselect => ?_) (fun hquery => ?_)
      · obtain ⟨hmem, hmatch⟩ := selectLatest_mem hselect
        have hin : a ∈ artifactsOf artifacts type (some key) :=
          hmatching ▸ mem_filter.mpr ⟨hmem, hmatch⟩
        exact absurd (hnone ▸ hin) not_mem_nil
      · obtain ⟨hid, htype, hkey⟩ := mem_queryArtifacts.mp hquery
        have hown := lastOf_of_identified hid
        rw [htype, hkey, hlast] at hown
        cases hown
    | some last =>
      obtain ⟨hid, htimes⟩ := hlatest last hlast
      have hselect := (hselected last hlast).mpr fun b hmem hmatch hne => (by
        have hb : b ∈ artifactsOf artifacts type (some key) :=
          hmatching ▸ mem_filter.mpr ⟨hmem, hmatch⟩
        exact (hbelow last hlast hid b hb hne).mpr (htimes b hb))
      rw [hselect, mem_queryArtifacts]
      constructor
      · intro heq
        cases heq
        obtain ⟨-, htype, hkey⟩ := lastOf_mem hlast
        exact ⟨hid, htype, hkey⟩
      · rintro ⟨hlast', htype, hkey⟩
        have hown := lastOf_of_identified hlast'
        rwa [htype, hkey, hlast] at hown

end Query

section Results

/-- A published artifact that matches a dependency of mode every version is in exactly one
activation, that of its turn, exactly if it comes before all others that match; and what such a
dependency selects by type and key is what a query returns of them, exactly if the last artifact
is the latest. -/
theorem every_version_iff (t : Texts) (latticeId : String) (timeoutMs : Option Int)
    (messages : List LatticeMessage) (hmessages : ∀ m ∈ messages, Typed m)
    (dependency : DependencyInput) (registeredAt : Option Int) (matcher : ArtifactMatcher)
    (hmode : dependency.mode = some .everyVersion) (hrequires : dependency.requires = [matcher])
    (inputs : List ArtifactInput) (hinputs : ∀ i ∈ inputs, Typed (.publishArtifact i)) :
    let s := (history t latticeId timeoutMs messages).state
    let d := createRegisteredDependency t dependency
    let s₀ := nextState t s (.registerDependency dependency registeredAt)
    ((turnOf t s (.registerDependency dependency registeredAt)).emit.isSome = true →
      ∀ done input rest, inputs = done ++ input :: rest →
        let s₁ := afterPublications t s₀ done
        let turn := turnOf t s₁ (.publishArtifact input)
        ∀ r, .artifactPublished r ∈ turn.events → matcherMatchesArtifact t r matcher = true →
          ((turn.activations d.dependencyId r = 1 ∧
              activationsIn (publicationTurns t s₀ inputs) d.dependencyId r = 1) ↔
            LatestOf t matcher s₁.artifacts r)) ∧
    ∀ type key,
      (∀ a, selectLatestMatchingArtifact t s.artifacts ⟨type, some key, none⟩ = some a ↔
        a ∈ queryArtifacts t s.artifacts ⟨some type, some key, false⟩ ∧ a.type = type) ↔
      LastIsLatest s.artifacts type (some key) := by
  intro s d s₀
  have hsound : Sound s := sound_history t latticeId timeoutMs hmessages
  refine ⟨fun hdone done input rest hsplit => ?_, ?_⟩
  · subst hsplit
    intro s₁ turn r hr hmatch
    exact (hsound.registered hmode hrequires hdone).activated_iff hinputs hr hmatch
  · exact fun type key => hsound.versioned.selected_iff

def everyNote : DependencyInput :=
  { plainDependency "dependency" "note" with mode := some .everyVersion }

def noteInput (hash : String) (publishedAt : Int) : ArtifactInput :=
  { plainArtifact "note" publishedAt with contentHash := some hash }

def noteRecord (version publishedAt : Int) (hash : String) : ArtifactRecord where
  artifactId := "note:@" ++ toString version
  type := "note"
  key := none
  version := version
  payload := .null
  producer := "producer"
  publishedAt := publishedAt
  contentHash := hash
  metadata := none

def noteState : LatticeState :=
  nextState plainTexts (history plainTexts "lattice" none []).state
    (.registerDependency everyNote none)

theorem every_version_first :
    (turnOf plainTexts noteState (.publishArtifact (noteInput "first" 5))).activations "dependency"
        (noteRecord 1 5 "first") = 1 ∧
      activationsIn (publicationTurns plainTexts noteState
        [noteInput "first" 5, noteInput "second" 3]) "dependency" (noteRecord 1 5 "first") = 1 := by
  have htyped : ∀ i ∈ [noteInput "first" 5, noteInput "second" 3], Typed (.publishArtifact i) := by
    intro i hi
    obtain rfl | hi := mem_cons.mp hi
    · exact ⟨rfl, rfl⟩
    · obtain rfl := mem_singleton.mp hi
      exact ⟨rfl, rfl⟩
  refine ((every_version_iff plainTexts "lattice" none [] (fun _ h => absurd h not_mem_nil)
    everyNote none ⟨"note", none, none⟩ rfl rfl _ htyped).1 (by decide) [] (noteInput "first" 5)
      [noteInput "second" 3] rfl (noteRecord 1 5 "first") (by decide) (by decide)).mpr ?_
  exact fun a ha => absurd ha not_mem_nil

/-- A second version with an earlier time is published without an activation, and is not the artifact
that is selected. -/
theorem earlier_version_not_activated :
    let s₁ := afterPublications plainTexts noteState [noteInput "first" 5]
    let turn := turnOf plainTexts s₁ (.publishArtifact (noteInput "second" 3))
    .artifactPublished (noteRecord 2 3 "second") ∈ turn.events ∧
      matcherMatchesArtifact plainTexts (noteRecord 2 3 "second") ⟨"note", none, none⟩ = true ∧
      turn.activations "dependency" (noteRecord 2 3 "second") = 0 := by
  decide

end Results

end ActorWeb.Lattice
