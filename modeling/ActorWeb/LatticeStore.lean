import ActorWeb.LatticeContents
import Mathlib.Data.List.Induction

/-! What a run of publications leaves in the store. -/

namespace ActorWeb.Lattice

open List Json Std

section Publications

/-- One call of `publishArtifact`; the content hash is left to the store. -/
structure Publication where
  type : String
  key : Option String
  payload : Json
  producer : String
  publishedAt : Int
  metadata : Option Json

def Publication.input (p : Publication) : ArtifactInput where
  artifactId := none
  type := p.type
  key := p.key
  version := none
  payload := p.payload
  producer := p.producer
  publishedAt := p.publishedAt
  contentHash := none
  metadata := p.metadata

def Publication.identity (p : Publication) : String := artifactIdentity p.type p.key

def ArtifactRecord.publication (a : ArtifactRecord) : Publication :=
  ⟨a.type, a.key, a.payload, a.producer, a.publishedAt, a.metadata⟩

variable (t : Texts)

def publish (artifacts : List ArtifactRecord) (p : Publication) : List ArtifactRecord :=
  artifacts ++ (publishArtifact t artifacts p.input).toList

def storeOf (ps : List Publication) : List ArtifactRecord := ps.foldl (publish t) []

theorem storeOf_concat (ps : List Publication) (p : Publication) :
    storeOf t (ps ++ [p]) = publish t (storeOf t ps) p :=
  foldl_concat ..

def artifactsOf (artifacts : List ArtifactRecord) (type : String) (key : Option String) :
    List ArtifactRecord :=
  artifacts.filter fun a => a.type = type ∧ a.key = key

def lastOf (artifacts : List ArtifactRecord) (type : String) (key : Option String) :
    Option ArtifactRecord :=
  (artifactsOf artifacts type key).getLast?

def countedVersions (n : Nat) : List Int := (List.range n).map fun i : Nat => (i : Int) + 1

/-- Equal payloads and metadata up to the order of keys; absent metadata is null. -/
def SameContent (a : ArtifactRecord) (p : Publication) : Prop :=
  KeyOrder a.payload p.payload ∧ KeyOrder (a.metadata.getD .null) (p.metadata.getD .null)

/-- The latest artifact of the type and key has the producer and the content of the publication. -/
def Repeats (artifacts : List ArtifactRecord) (p : Publication) : Prop :=
  ∃ latest, lastOf artifacts p.type p.key = some latest ∧ latest.producer = p.producer ∧
    SameContent latest p

structure Orderly (ps : List Publication) : Prop where
  order : ((storeOf t ps).map ArtifactRecord.publication).Sublist ps
  versions : ∀ type key, (artifactsOf (storeOf t ps) type key).map ArtifactRecord.version =
    countedVersions (artifactsOf (storeOf t ps) type key).length
  ids : ((storeOf t ps).map ArtifactRecord.artifactId).Nodup
  dropped : ∀ before p after, ps = before ++ p :: after →
    (publishArtifact t (storeOf t before) p.input = none ↔ Repeats (storeOf t before) p)
  latest : ∀ a, a ∈ queryArtifacts t (storeOf t ps) ⟨none, none, false⟩ ↔
    lastOf (storeOf t ps) a.type a.key = some a
  once : (queryArtifacts t (storeOf t ps) ⟨none, none, false⟩).Nodup

def TellsApart (ps : List Publication) : Prop :=
  ∀ p ∈ ps, ∀ q ∈ ps, p.identity = q.identity → p.type = q.type ∧ p.key = q.key

def KeysToldApart (ps : List Publication) : Prop :=
  ∀ p ∈ ps, ToldApart t p.payload ∧ ToldApart t (p.metadata.getD .null)

end Publications

section Identities

variable {t : Texts} {artifacts : List ArtifactRecord} {p : Publication} {a : ArtifactRecord}

def identified (artifacts : List ArtifactRecord) (identity : String) : List ArtifactRecord :=
  artifacts.filter fun a => a.identity = identity

theorem find?_reverse_identity (artifacts : List ArtifactRecord) (identity : String) :
    artifacts.reverse.find? (fun candidate => candidate.identity = identity) =
      (identified artifacts identity).getLast? := by
  rw [identified, ← head?_filter, filter_reverse, head?_reverse]

def recordOf (t : Texts) (artifacts : List ArtifactRecord) (p : Publication) : ArtifactRecord :=
  let version := (((identified artifacts p.identity).getLast?).map ArtifactRecord.version).getD 0 + 1
  { artifactId := p.identity ++ "@" ++ toString version
    type := p.type
    key := p.key
    version
    payload := p.payload
    producer := p.producer
    publishedAt := p.publishedAt
    contentHash := createContentHash t p.payload p.metadata
    metadata := p.metadata }

theorem publishArtifact_eq : publishArtifact t artifacts p.input =
    if (identified artifacts p.identity).getLast?.any fun latest =>
      latest.producer = p.producer && latest.contentHash = createContentHash t p.payload p.metadata
    then none else some (recordOf t artifacts p) := by
  have hfind := find?_reverse_identity artifacts p.identity
  unfold publishArtifact recordOf
  rw [← hfind]
  rfl

theorem publish_cases (t : Texts) (artifacts : List ArtifactRecord) (p : Publication) :
    (publishArtifact t artifacts p.input = none ∧ publish t artifacts p = artifacts) ∨
      publish t artifacts p = artifacts ++ [recordOf t artifacts p] := by
  rw [publish, publishArtifact_eq]
  split
  case isTrue => exact .inl ⟨rfl, append_nil _⟩
  case isFalse => exact .inr rfl

/-- Versions count the artifacts of an identity, and ids are made of both. -/
structure Counted (t : Texts) (artifacts : List ArtifactRecord) : Prop where
  versions : ∀ identity, (identified artifacts identity).map ArtifactRecord.version =
    countedVersions (identified artifacts identity).length
  ids : ∀ a ∈ artifacts, a.artifactId = a.identity ++ "@" ++ toString a.version
  hashes : ∀ a ∈ artifacts, a.contentHash = createContentHash t a.payload a.metadata
  unique : (artifacts.map ArtifactRecord.artifactId).Nodup

theorem countedVersions_succ (n : Nat) :
    countedVersions (n + 1) = countedVersions n ++ [(n : Int) + 1] := by
  rw [countedVersions, range_succ, map_append]
  rfl

theorem mem_countedVersions {n : Nat} {version : Int} :
    version ∈ countedVersions n ↔ 1 ≤ version ∧ version ≤ n := by
  rw [countedVersions, mem_map]
  constructor
  · rintro ⟨i, hi, rfl⟩
    have := mem_range.mp hi
    omega
  · rintro ⟨hlow, hhigh⟩
    exact ⟨(version - 1).toNat, mem_range.mpr (by omega), by omega⟩

theorem countedVersions_getLast? (n : Nat) : ((countedVersions n).getLast?).getD 0 = n := by
  cases n with
  | zero => rfl
  | succ n => simp [countedVersions_succ]

theorem identified_append (new : ArtifactRecord) (identity : String) :
    identified (artifacts ++ [new]) identity =
      identified artifacts identity ++ if new.identity = identity then [new] else [] := by
  rw [identified, filter_append, filter_singleton]
  simp [identified]

theorem recordOf_identity : (recordOf t artifacts p).identity = p.identity := rfl

theorem Counted.recordOf_version (h : Counted t artifacts) :
    (recordOf t artifacts p).version = (identified artifacts p.identity).length + 1 := by
  have hlast := congrArg List.getLast? (h.versions p.identity)
  rw [getLast?_map] at hlast
  rw [recordOf, hlast, countedVersions_getLast?]

theorem Counted.version_le (h : Counted t artifacts) (ha : a ∈ artifacts) :
    1 ≤ a.version ∧ a.version ≤ (identified artifacts a.identity).length := by
  rw [← mem_countedVersions, ← h.versions]
  exact mem_map_of_mem (mem_filter.mpr ⟨ha, decide_eq_true rfl⟩)

theorem artifactId_inj {identity identity' : String} {n n' : Nat}
    (h : identity ++ "@" ++ toString (n : Int) = identity' ++ "@" ++ toString (n' : Int)) :
    identity = identity' ∧ n = n' := by
  have htext (m : Nat) : (toString (m : Int)).toList = Nat.toDigits 10 m := Nat.toList_repr
  have hdigits (m : Nat) : '@' ∉ Nat.toDigits 10 m := fun hm => by
    simpa using Nat.isDigit_of_mem_toDigits (by decide) (by decide) hm
  have hlist := congrArg String.toList h
  simp only [String.toList_append, htext, append_assoc] at hlist
  obtain ⟨hid, hnumber⟩ : identity.toList = identity'.toList ∧
      Nat.toDigits 10 n = Nat.toDigits 10 n' :=
    JsText.split_at_last hlist (hdigits n) (hdigits n')
  refine ⟨String.toList_inj.mp hid, ?_⟩
  rw [← Nat.ofDigitChars_ten_toDigits (n := n), hnumber, Nat.ofDigitChars_ten_toDigits]

theorem Counted.publish (h : Counted t artifacts) (p : Publication) :
    Counted t (publish t artifacts p) := by
  obtain ⟨-, heq⟩ | heq := publish_cases t artifacts p
  · rw [heq]
    exact h
  · rw [heq]
    refine ⟨?_, ?_, ?_, ?_⟩
    · intro identity
      rw [identified_append, recordOf_identity]
      split
      case isTrue hid =>
        subst hid
        rw [map_append, h.versions, length_append, length_singleton,
          countedVersions_succ, map_singleton, h.recordOf_version]
      case isFalse => rw [append_nil, h.versions]
    · intro a ha
      obtain ha | ha := mem_append.mp ha
      · exact h.ids a ha
      · rw [mem_singleton.mp ha]
        rfl
    · intro a ha
      obtain ha | ha := mem_append.mp ha
      · exact h.hashes a ha
      · rw [mem_singleton.mp ha]
        rfl
    · rw [map_append, map_singleton, nodup_append]
      refine ⟨h.unique, nodup_singleton _, ?_⟩
      intro id hid id' hid' heq
      obtain ⟨a, ha, rfl⟩ := mem_map.mp hid
      rw [mem_singleton.mp hid', h.ids a ha] at heq
      have hbound := h.version_le ha
      have hversion : (recordOf t artifacts p).artifactId =
          p.identity ++ "@" ++ toString (((identified artifacts p.identity).length + 1 : Nat) : Int) := by
        rw [Nat.cast_add, Nat.cast_one, ← h.recordOf_version]
        rfl
      rw [hversion, ← Int.toNat_of_nonneg (a := a.version) (by omega)] at heq
      obtain ⟨hid, hn⟩ := artifactId_inj heq
      rw [hid] at hbound
      omega

theorem counted_storeOf (t : Texts) (ps : List Publication) : Counted t (storeOf t ps) := by
  induction ps using List.reverseRecOn with
  | nil => exact ⟨fun _ => rfl, nofun, nofun, nodup_nil⟩
  | append_singleton ps p ih =>
    rw [storeOf_concat]
    exact ih.publish p

end Identities

section Latest

variable {t : Texts} {artifacts : List ArtifactRecord} {a : ArtifactRecord}

def latestByIdentity (artifacts : List ArtifactRecord) : OrderedMap String ArtifactRecord :=
  artifacts.foldl (fun latest artifact => latest.set artifact.identity artifact) .empty

theorem latestByIdentity_get (artifacts : List ArtifactRecord) (identity : String) :
    (latestByIdentity artifacts).get identity = (identified artifacts identity).getLast? := by
  induction artifacts using List.reverseRecOn with
  | nil => rfl
  | append_singleton artifacts a ih =>
    have hset : latestByIdentity (artifacts ++ [a]) =
        (latestByIdentity artifacts).set a.identity a := foldl_concat ..
    rw [hset, OrderedMap.get_set, identified_append, ih]
    by_cases hid : a.identity = identity
    · rw [if_pos hid.symm, if_pos hid, getLast?_append, getLast?_singleton]
      rfl
    · rw [if_neg (Ne.symm hid), if_neg hid, append_nil]

theorem mem_getLatestArtifacts : a ∈ getLatestArtifacts t artifacts ↔
    (identified artifacts a.identity).getLast? = some a := by
  have hmem : a ∈ getLatestArtifacts t artifacts ↔ a ∈ (latestByIdentity artifacts).values :=
    (sortBy_perm _ _).mem_iff
  rw [hmem, OrderedMap.mem_values_iff]
  constructor
  · rintro ⟨identity, hget⟩
    rw [latestByIdentity_get] at hget
    have hid := (mem_filter.mp (mem_of_getLast? hget)).2
    rw [decide_eq_true_eq] at hid
    rwa [hid]
  · intro hlast
    exact ⟨a.identity, by rw [latestByIdentity_get, hlast]⟩

theorem getLatestArtifacts_nodup : (getLatestArtifacts t artifacts).Nodup := by
  refine (sortBy_perm _ _).nodup_iff.mpr (List.Nodup.of_map ArtifactRecord.identity ?_)
  have hkeys : (latestByIdentity artifacts).values.map ArtifactRecord.identity =
      (latestByIdentity artifacts).keys := by
    rw [OrderedMap.values, OrderedMap.keys, map_map]
    refine map_congr_left fun e he => ?_
    have hget := OrderedMap.get_eq_some_iff.mpr he
    rw [latestByIdentity_get] at hget
    exact of_decide_eq_true (mem_filter.mp (mem_of_getLast? hget)).2
  exact hkeys ▸ (latestByIdentity artifacts).nodup

end Latest

section Runs

variable {t : Texts} {ps : List Publication} {a : ArtifactRecord} {p : Publication}

theorem storeOf_sublist (t : Texts) (ps : List Publication) :
    ((storeOf t ps).map ArtifactRecord.publication).Sublist ps := by
  induction ps using List.reverseRecOn with
  | nil => exact List.Sublist.refl _
  | append_singleton ps p ih =>
    rw [storeOf_concat]
    obtain ⟨-, heq⟩ | heq := publish_cases t (storeOf t ps) p
    · rw [heq]
      exact ih.trans (sublist_append_left ..)
    · rw [heq, map_append]
      exact ih.append (List.Sublist.refl [p])

theorem publication_mem (ha : a ∈ storeOf t ps) : a.publication ∈ ps :=
  (storeOf_sublist t ps).subset (mem_map_of_mem ha)

theorem TellsApart.of_subset {qs : List Publication} (h : TellsApart ps) (hsub : qs ⊆ ps) :
    TellsApart qs :=
  fun p hp q hq => h p (hsub hp) q (hsub hq)

theorem TellsApart.artifactsOf_eq (h : TellsApart ps) {qs : List Publication} (hsub : qs ⊆ ps)
    (hp : p ∈ ps) :
    artifactsOf (storeOf t qs) p.type p.key = identified (storeOf t qs) p.identity := by
  refine filter_congr fun a ha => decide_eq_decide.mpr ⟨?_, ?_⟩
  · rintro ⟨htype, hkey⟩
    rw [ArtifactRecord.identity, htype, hkey]
    rfl
  · intro hid
    exact h a.publication (hsub (publication_mem ha)) p hp hid

theorem TellsApart.versions (h : TellsApart ps) (type : String) (key : Option String) :
    (artifactsOf (storeOf t ps) type key).map ArtifactRecord.version =
      countedVersions (artifactsOf (storeOf t ps) type key).length := by
  by_cases hpublished : ∃ p ∈ ps, p.type = type ∧ p.key = key
  · obtain ⟨p, hp, rfl, rfl⟩ := hpublished
    rw [h.artifactsOf_eq (List.Subset.refl ps) hp]
    exact (counted_storeOf t ps).versions p.identity
  · have hnone : artifactsOf (storeOf t ps) type key = [] := by
      refine filter_eq_nil_iff.mpr fun a ha hof => hpublished ?_
      exact ⟨a.publication, publication_mem ha, of_decide_eq_true hof⟩
    rw [hnone]
    rfl

theorem TellsApart.latest (h : TellsApart ps) :
    a ∈ queryArtifacts t (storeOf t ps) ⟨none, none, false⟩ ↔
      lastOf (storeOf t ps) a.type a.key = some a := by
  have hall : queryArtifacts t (storeOf t ps) ⟨none, none, false⟩ =
      getLatestArtifacts t (storeOf t ps) := filter_eq_self.mpr fun _ _ => rfl
  have heq (ha : a ∈ storeOf t ps) : artifactsOf (storeOf t ps) a.type a.key =
      identified (storeOf t ps) a.identity :=
    h.artifactsOf_eq (List.Subset.refl ps) (publication_mem ha)
  rw [hall, mem_getLatestArtifacts, lastOf]
  constructor
  · intro hlast
    rw [heq (mem_filter.mp (mem_of_getLast? hlast)).1, hlast]
  · intro hlast
    rw [← heq (mem_filter.mp (mem_of_getLast? hlast)).1, hlast]

theorem dropped_iff [TransCmp t.localeCompare] (hsha : Function.Injective t.sha256)
    (h : TellsApart ps) (hkeys : KeysToldApart t ps) {before after : List Publication}
    (hps : ps = before ++ p :: after) :
    publishArtifact t (storeOf t before) p.input = none ↔ Repeats (storeOf t before) p := by
  subst hps
  have hsub : before ⊆ before ++ p :: after := subset_append_left ..
  have hp : p ∈ before ++ p :: after := mem_append_right _ mem_cons_self
  have heq : artifactsOf (storeOf t before) p.type p.key =
      identified (storeOf t before) p.identity := h.artifactsOf_eq hsub hp
  have hcontent : ∀ latest ∈ storeOf t before,
      latest.contentHash = createContentHash t p.payload p.metadata ↔ SameContent latest p := by
    intro latest hlatest
    obtain ⟨hpayload, hmetadata⟩ := hkeys _ (hsub (publication_mem hlatest))
    rw [(counted_storeOf t before).hashes latest hlatest]
    exact createContentHash_eq_iff hsha hpayload hmetadata
  rw [publishArtifact_eq, Repeats, lastOf, heq, ite_eq_left_iff]
  cases hlast : (identified (storeOf t before) p.identity).getLast? with
  | none => simp
  | some latest =>
    have hmem := (mem_filter.mp (mem_of_getLast? hlast)).1
    simp [hcontent latest hmem]

theorem orderly_of_tellsApart [TransCmp t.localeCompare] (hsha : Function.Injective t.sha256)
    (h : TellsApart ps) (hkeys : KeysToldApart t ps) : Orderly t ps where
  order := storeOf_sublist t ps
  versions := h.versions
  ids := (counted_storeOf t ps).unique
  dropped _ _ _ hps := dropped_iff hsha h hkeys hps
  latest _ := h.latest
  once := getLatestArtifacts_nodup.filter _

theorem identified_ne_nil (hp : p ∈ ps) : identified (storeOf t ps) p.identity ≠ [] := by
  induction ps using List.reverseRecOn with
  | nil => cases hp
  | append_singleton ps q ih =>
    rw [storeOf_concat]
    obtain ⟨hnone, heq⟩ | heq := publish_cases t (storeOf t ps) q
    · rw [heq]
      obtain hp | hp := mem_append.mp hp
      · exact ih hp
      · obtain rfl := mem_singleton.mp hp
        rw [publishArtifact_eq] at hnone
        intro hnil
        rw [hnil] at hnone
        cases hnone
    · rw [heq, identified_append, recordOf_identity]
      obtain hp | hp := mem_append.mp hp
      · exact append_ne_nil_of_left_ne_nil (ih hp) _
      · obtain rfl := mem_singleton.mp hp
        rw [if_pos rfl]
        exact append_ne_nil_of_right_ne_nil _ (by simp)

theorem TellsApart.of_orderly (h : TellsApart ps) (hnext : Orderly t (ps ++ [p])) {q : Publication}
    (hq : q ∈ ps) (hid : q.identity = p.identity) : q.type = p.type ∧ q.key = p.key := by
  by_contra hne
  have hnone : artifactsOf (storeOf t ps) p.type p.key = [] := by
    refine filter_eq_nil_iff.mpr fun a ha hof => hne ?_
    obtain ⟨htype, hkey⟩ := of_decide_eq_true hof
    rw [← htype, ← hkey]
    refine h q hq a.publication (publication_mem ha) (hid.trans ?_)
    rw [Publication.identity, Publication.identity, ← htype, ← hkey]
    rfl
  have hkept : publishArtifact t (storeOf t ps) p.input ≠ none := by
    rw [Ne, hnext.dropped ps p [] rfl]
    rintro ⟨latest, hlast, -⟩
    rw [lastOf, hnone] at hlast
    cases hlast
  obtain ⟨hdropped, -⟩ | heq := publish_cases t (storeOf t ps) p
  · exact hkept hdropped
  · have hversions := hnext.versions p.type p.key
    have hown : artifactsOf (storeOf t ps ++ [recordOf t (storeOf t ps) p]) p.type p.key =
        [recordOf t (storeOf t ps) p] := by
      rw [artifactsOf, filter_append]
      exact (congrArg (· ++ _) hnone).trans (filter_eq_self.mpr fun a ha => by
        rw [mem_singleton.mp ha]
        exact decide_eq_true ⟨rfl, rfl⟩)
    rw [storeOf_concat, heq, hown, map_singleton,
      (counted_storeOf t ps).recordOf_version] at hversions
    have hzero : ((identified (storeOf t ps) p.identity).length : Int) + 1 = 0 + 1 :=
      (List.cons.inj hversions).1
    have hlength : (identified (storeOf t ps) p.identity).length = 0 := by omega
    exact identified_ne_nil hq (hid ▸ length_eq_zero_iff.mp hlength)

theorem tellsApart_of_orderly (h : ∀ qs, qs <+: ps → Orderly t qs) : TellsApart ps := by
  induction ps using List.reverseRecOn with
  | nil => exact nofun
  | append_singleton ps p ih =>
    have hps : TellsApart ps := ih fun qs hqs => h qs (hqs.trans (prefix_append ..))
    have hnext := h _ (prefix_refl _)
    simp only [TellsApart, forall_mem_append, forall_mem_singleton]
    refine ⟨fun a ha => ⟨hps a ha, fun hid => hps.of_orderly hnext ha hid⟩, fun b hb hid => ?_,
      fun _ => ⟨trivial, trivial⟩⟩
    exact (hps.of_orderly hnext hb hid.symm).imp Eq.symm Eq.symm

def ownTexts : Texts := ⟨compare, id⟩

theorem ownTexts_order : TransCmp ownTexts.localeCompare :=
  inferInstanceAs (TransCmp (compare : String → String → Ordering))

def note (type : String) (key : Option String) (payload : Json) : Publication :=
  ⟨type, key, payload, "producer", 0, none⟩

end Runs

end ActorWeb.Lattice
