import ActorWeb.ActorAddress
import ActorWeb.OrderedMap
import Mathlib.Algebra.Order.Ring.Int

/-! The short-term memory of an agent, and what it recalls of it. -/

namespace ActorWeb.HybridMemory

open OrderedMap List

/-- `D` is what an experience holds beside the words that it is found by. -/
structure Experience (D : Type) where
  (id content : String)
  tags : List String
  data : D
deriving DecidableEq

inductive MemoryType
  | shortTerm | episodic | semantic
deriving DecidableEq

inductive Content (D : Type)
  | experience (experience : Experience D)
  | text (text : String)
deriving DecidableEq

structure Memory (D R : Type) where
  type : MemoryType
  content : Content D
  (relevance confidence : R)
  sourceId : Option String

structure RecallOptions where
  (includeShortTerm includeEpisodic includeSemantic : Bool)
  limit : Nat

/-- What a memory is given by the platform and by the two stores beside the cache. -/
structure Platform (D R : Type) where
  blank : D
  toLowerCase : String → String
  calculateRelevance : Experience D → String → R
  certain : R
  search : String → Nat → List (String × R × R × String)
  query : String → List (String × R × R)

section LRUCache

variable {V : Type} (maxSize : Nat) (cache : OrderedMap String V) (key : String)

/-- The least recently used key is the first. -/
def makeRoom : OrderedMap String V :=
  if cache.has key then cache.delete key
  else if maxSize ≤ cache.size then
    match cache.keys with
    | [] => cache
    | firstKey :: _ => cache.delete firstKey
  else cache

def LRUCache.set (value : V) : OrderedMap String V := (makeRoom maxSize cache key).set key value

theorem delete_first {e : String × V} {rest : List (String × V)} (h : cache.entries = e :: rest) :
    (cache.delete e.1).entries = rest := by
  have hn := cache.nodup
  rw [h, map_cons, nodup_cons] at hn
  change cache.entries.filter _ = rest
  rw [h, filter_cons_of_neg (by simp)]
  refine filter_eq_self.mpr fun x hx => decide_eq_true fun heq => hn.1 ?_
  exact mem_map.mpr ⟨x, hx, heq⟩

theorem makeRoom_suffix : (makeRoom maxSize cache key).entries <:+ (cache.delete key).entries := by
  unfold makeRoom
  split
  case isTrue => exact suffix_refl _
  case isFalse hnone =>
    have hget : cache.get key = none := by simpa [OrderedMap.has] using hnone
    rw [delete_entries_of_not_mem (get_eq_none_iff.mp hget)]
    split
    case isTrue hfull =>
      cases hentries : cache.entries with
      | nil =>
        rw [show cache.keys = [] from congrArg (List.map Prod.fst) hentries]
        exact hentries ▸ suffix_refl _
      | cons e rest =>
        rw [show cache.keys = e.1 :: rest.map Prod.fst from congrArg (List.map _) hentries]
        change (cache.delete e.1).entries <:+ _
        rw [delete_first cache hentries]
        exact suffix_cons _ _
    case isFalse hroom => exact suffix_refl _

theorem makeRoom_size (hmax : 1 ≤ maxSize) : (makeRoom maxSize cache key).size +
      (if key ∉ cache.keys ∧ cache.size < maxSize then 0 else 1) = cache.size := by
  unfold makeRoom
  cases hget : cache.get key with
  | some value =>
    have hmem : ¬ key ∉ cache.keys := fun h => by
      rw [get_eq_none_iff.mpr h] at hget
      cases hget
    rw [if_pos (by simp [OrderedMap.has, hget]), if_neg fun h => hmem h.1]
    exact size_delete hget
  | none =>
    have hmem := get_eq_none_iff.mp hget
    rw [if_neg (by simp [OrderedMap.has, hget])]
    split
    case isTrue hfull =>
      rw [if_neg fun h => absurd h.2 (Nat.not_lt.mpr hfull)]
      cases hentries : cache.entries with
      | nil =>
        have hzero : cache.size = 0 := congrArg List.length hentries
        omega
      | cons e rest =>
        rw [show cache.keys = e.1 :: rest.map Prod.fst from congrArg (List.map _) hentries]
        change (cache.delete e.1).entries.length + 1 = cache.entries.length
        rw [delete_first cache hentries, hentries]
        rfl
    case isFalse hroom => rw [if_pos ⟨hmem, Nat.lt_of_not_le hroom⟩]; rfl

theorem LRUCache.set_entries (value : V) : (LRUCache.set maxSize cache key value).entries =
    (makeRoom maxSize cache key).entries ++ [(key, value)] := by
  have hfresh : key ∉ (makeRoom maxSize cache key).keys := by
    intro hmem
    have hmem := ((makeRoom_suffix maxSize cache key).sublist.map Prod.fst).subset hmem
    exact get_eq_none_iff.mp (get_delete_self cache key) hmem
  rw [LRUCache.set, OrderedMap.set, dif_neg hfresh]

/-- `cache` holds the last of `all`, as many as it may. -/
structure Recent (cache all : OrderedMap String V) : Prop where
  suffix : cache.entries <:+ all.entries
  size : cache.size = min maxSize all.size

variable {cache maxSize}

theorem Recent.set {all : OrderedMap String V} (h : Recent maxSize cache all) (hmax : 1 ≤ maxSize)
    (value : V) : Recent maxSize (LRUCache.set maxSize cache key value)
      ((all.delete key).set key value) where
  suffix := by
    obtain ⟨older, holder⟩ := (makeRoom_suffix maxSize cache key).trans (h.suffix.filter _)
    rw [LRUCache.set_entries, delete_set_entries]
    exact ⟨older, by rw [← append_assoc, holder]; rfl⟩
  size := by
    have hroom := makeRoom_size maxSize cache key hmax
    have hsize := h.size
    have hmem : key ∈ cache.keys → key ∈ all.keys :=
      fun hmem => (h.suffix.sublist.map Prod.fst).subset hmem
    have hless : key ∉ cache.keys → key ∈ all.keys → cache.size < all.size := by
      intro hnone hsome
      refine Nat.lt_of_le_of_ne h.suffix.length_le fun heq => hnone ?_
      rwa [OrderedMap.keys, h.suffix.eq_of_length heq]
    have hleft := congrArg List.length (LRUCache.set_entries maxSize cache key value)
    have hright := congrArg List.length (delete_set_entries all key value)
    rw [length_append, length_singleton] at hleft hright
    change (LRUCache.set maxSize cache key value).size = (makeRoom maxSize cache key).size + 1 at hleft
    change ((all.delete key).set key value).size = (all.delete key).size + 1 at hright
    rw [hleft, hright]
    cases hget : all.get key with
    | none =>
      have hall := get_eq_none_iff.mp hget
      have hsame : (all.delete key).size = all.size :=
        congrArg List.length (delete_entries_of_not_mem hall)
      by_cases hspace : cache.size < maxSize
      · rw [if_pos ⟨fun hin => hall (hmem hin), hspace⟩] at hroom
        omega
      · rw [if_neg fun h => hspace h.2] at hroom
        omega
    | some old =>
      have hgone := size_delete hget
      by_cases hin : key ∈ cache.keys
      · rw [if_neg fun h => h.1 hin] at hroom
        omega
      · have hsome : key ∈ all.keys := by
          by_contra hnone
          cases hget.symm.trans (get_eq_none_iff.mpr hnone)
        have hlarger := hless hin hsome
        by_cases hspace : cache.size < maxSize
        · rw [if_pos ⟨hin, hspace⟩] at hroom
          omega
        · rw [if_neg fun h => hspace h.2] at hroom
          omega

end LRUCache

section Recall

variable {D R : Type} (p : Platform D R)

/-- The white space of a regular expression. -/
def isSpace (c : Char) : Bool :=
  9 ≤ c.toNat && c.toNat ≤ 13 || 0x2000 ≤ c.toNat && c.toNat ≤ 0x200a ||
    c.toNat ∈ [0x20, 0xa0, 0x1680, 0x2028, 0x2029, 0x202f, 0x205f, 0x3000, 0xfeff]

/-- `split` at the runs of white space. -/
def splitAtSpace : List Char → List (List Char)
  | [] => [[]]
  | c :: cs =>
    if isSpace c then if (cs.head?.map isSpace).getD false then splitAtSpace cs else
      [] :: splitAtSpace cs
    else
      match splitAtSpace cs with
      | [] => [[c]]
      | word :: words => (c :: word) :: words

def wordsOf (text : String) : List (List Char) := splitAtSpace (p.toLowerCase text).toList

def isRelevant (experience : Experience D) (context : String) : Bool :=
  (wordsOf p context).any (· ∈ wordsOf p experience.content) ||
    experience.tags.any fun tag => (p.toLowerCase tag).toList ∈ wordsOf p context

def recentExperiences (shortTerm : OrderedMap String (Experience D)) (context : String) :
    List (Memory D R) :=
  (shortTerm.values.filter (isRelevant p · context)).map fun experience =>
    ⟨.shortTerm, .experience experience, p.calculateRelevance experience context, p.certain,
      some experience.id⟩

def placeholder (experienceId : String) : Experience D := ⟨experienceId, "", [], p.blank⟩

theorem placeholder_isRelevant (hlower : p.toLowerCase "" = "") (experienceId : String) :
    isRelevant p (placeholder p experienceId) "" := by
  simp [isRelevant, placeholder, wordsOf, hlower, splitAtSpace]

variable [DecidableEq D] [LinearOrder R]

/-- Two memories are the same if their types are and the texts of their contents. -/
def merge (merged : OrderedMap (MemoryType × Content D) (Memory D R))
    (memory : Memory D R) : OrderedMap (MemoryType × Content D) (Memory D R) :=
  merged.set (memory.type, memory.content)
    (match merged.get (memory.type, memory.content) with
      | some existing =>
        { existing with
          relevance := max existing.relevance memory.relevance
          confidence := max existing.confidence memory.confidence }
      | none => memory)

def mergeMemories (memories : List (Memory D R)) : List (Memory D R) :=
  (memories.foldl merge .empty).values

def recallMemories (shortTerm : OrderedMap String (Experience D)) (context : String)
    (options : RecallOptions) : List (Memory D R) :=
  let short := if options.includeShortTerm then recentExperiences p shortTerm context else []
  let episodic := if options.includeEpisodic then (p.search context (options.limit / 2)).map fun found =>
      (⟨.episodic, .text found.1, found.2.1, found.2.2.1, some found.2.2.2⟩ : Memory D R)
    else []
  let semantic := if options.includeSemantic then (p.query context).map fun found =>
      (⟨.semantic, .text found.1, found.2.1, found.2.2, none⟩ : Memory D R)
    else []
  ((mergeMemories (short ++ episodic ++ semantic)).mergeSort fun a b => b.relevance ≤ a.relevance).take
    options.limit

/-- Every memory has its place, and the memory there has the type and the source of that place. -/
structure Merged (source : Content D → Option String) (memories : List (Memory D R))
    (merged : OrderedMap (MemoryType × Content D) (Memory D R)) : Prop where
  found : ∀ memory ∈ memories, ∃ m, merged.get (memory.type, memory.content) = some m
  agrees : ∀ place m, merged.get place = some m → m.type = place.1 ∧ m.sourceId = source place.2

variable {source : Content D → Option String}

theorem Merged.merge {memories : List (Memory D R)} {merged} (h : Merged source memories merged)
    {memory : Memory D R} (hsource : memory.sourceId = source memory.content) :
    Merged source (memories ++ [memory]) (merge merged memory) where
  found := by
    intro m hm
    rw [HybridMemory.merge, get_set]
    split
    case isTrue heq => exact ⟨_, rfl⟩
    case isFalse hne =>
      obtain hm | hm := mem_append.mp hm
      · exact h.found m hm
      · rw [mem_singleton.mp hm] at hne
        exact absurd rfl hne
  agrees := by
    intro place m hm
    rw [HybridMemory.merge, get_set] at hm
    split at hm
    case isTrue heq =>
      subst heq
      cases hm
      split
      case h_1 existing hexisting => exact h.agrees _ existing hexisting
      case h_2 => exact ⟨rfl, hsource⟩
    case isFalse hne => exact h.agrees place m hm

theorem mem_mergeMemories {memories : List (Memory D R)}
    (hsource : ∀ m ∈ memories, m.sourceId = source m.content) {memory : Memory D R}
    (hmemory : memory ∈ memories) : ∃ m ∈ mergeMemories memories,
      m.type = memory.type ∧ m.sourceId = memory.sourceId := by
  have hmerged : Merged source memories (memories.foldl merge .empty) := by
    clear hmemory
    induction memories using List.reverseRecOn with
    | nil =>
      refine ⟨fun m hm => absurd hm not_mem_nil, fun place m hm => ?_⟩
      cases (get_empty place).symm.trans hm
    | append_singleton memories last ih =>
      rw [foldl_concat]
      exact (ih fun m hm => hsource m (mem_append_left _ hm)).merge
        (hsource last (mem_append_right _ (mem_singleton_self last)))
  obtain ⟨m, hm⟩ := hmerged.found memory hmemory
  obtain ⟨htype, hid⟩ := hmerged.agrees _ m hm
  exact ⟨m, mem_values_iff.mpr ⟨_, hm⟩, htype, hid.trans (hsource memory hmemory).symm⟩

theorem recall_placeholder (hlower : p.toLowerCase "" = "")
    {shortTerm : OrderedMap String (Experience D)} {experienceId : String}
    (hmem : placeholder p experienceId ∈ shortTerm.values) : ∃ options,
      ∃ m ∈ recallMemories p shortTerm "" options, m.type = .shortTerm ∧ m.sourceId = some experienceId := by
  let idOf : Content D → Option String := fun content =>
    match content with
    | .experience experience => some experience.id
    | .text _ => none
  have hsource : ∀ m ∈ recentExperiences p shortTerm "", m.sourceId = idOf m.content := by
    intro m hm
    obtain ⟨experience, -, rfl⟩ := mem_map.mp hm
    rfl
  have hrecent := mem_map_of_mem (f := fun experience : Experience D =>
      (⟨.shortTerm, .experience experience, p.calculateRelevance experience "", p.certain,
        some experience.id⟩ : Memory D R))
    (mem_filter (p := (isRelevant p · "")).mpr
      ⟨hmem, placeholder_isRelevant p hlower experienceId⟩)
  obtain ⟨m, hm, htype, hid⟩ := mem_mergeMemories hsource hrecent
  refine ⟨⟨true, false, false, (mergeMemories (recentExperiences p shortTerm "")).length⟩, m, ?_,
    htype, hid⟩
  simp only [recallMemories, if_true, Bool.false_eq_true, if_false, append_nil]
  rw [take_of_length_le (length_mergeSort _).le]
  exact mem_mergeSort.mpr hm

end Recall

section AgentMemory

variable {D R : Type} (p : Platform D R) (maxSize : Nat)

inductive Call (D : Type)
  | remember (experience : Experience D)
  | forget (experienceId : String)

variable (shortTerm : OrderedMap String (Experience D))

def remember (experience : Experience D) :
    OrderedMap String (Experience D) :=
  LRUCache.set maxSize shortTerm experience.id experience

def forget (experienceId : String) :
    OrderedMap String (Experience D) :=
  LRUCache.set maxSize shortTerm experienceId (placeholder p experienceId)

def call : Call D → OrderedMap String (Experience D)
  | .remember experience => remember maxSize shortTerm experience
  | .forget experienceId => forget p maxSize shortTerm experienceId

def shortTermAfter (history : List (Call D)) : OrderedMap String (Experience D) :=
  history.foldl (call p maxSize) .empty

/-- The experiences of a memory without bound, the most recently used one last. -/
def used (experiences : OrderedMap String (Experience D)) : Call D → OrderedMap String (Experience D)
  | .remember experience => (experiences.delete experience.id).set experience.id experience
  | .forget experienceId => experiences.delete experienceId

def experiencesAfter (history : List (Call D)) : OrderedMap String (Experience D) :=
  history.foldl used .empty

theorem shortTermAfter_forget (before : List (Call D)) (experienceId : String) :
    placeholder p experienceId ∈ (shortTermAfter p maxSize (before ++
      [.forget experienceId])).values := by
  rw [shortTermAfter, foldl_concat]
  refine mem_map.mpr ⟨(experienceId, placeholder p experienceId), ?_, rfl⟩
  change _ ∈ (LRUCache.set _ _ _ _).entries
  rw [LRUCache.set_entries]
  exact mem_append_right _ (mem_singleton_self _)

theorem Recent.after (hmax : 1 ≤ maxSize) {history : List (Call D)}
    (hforget : ∀ experienceId, .forget experienceId ∉ history) :
    Recent maxSize (shortTermAfter p maxSize history) (experiencesAfter history) := by
  induction history using List.reverseRecOn with
  | nil => exact ⟨suffix_refl _, (Nat.min_zero _).symm⟩
  | append_singleton history last ih =>
    have hbefore := ih fun experienceId h => hforget experienceId (mem_append_left _ h)
    rw [shortTermAfter, experiencesAfter, foldl_concat, foldl_concat]
    cases last with
    | remember experience => exact hbefore.set experience.id hmax experience
    | forget experienceId =>
      exact absurd (mem_append_right _ (mem_singleton_self _)) (hforget experienceId)

variable [DecidableEq D] [LinearOrder R]

/-- Forgetting takes one experience away, and the rest are the most recently used ones. -/
structure Forgets (history : List (Call D)) : Prop where
  isLocal : ∀ before experienceId, before ++ [.forget experienceId] <+: history →
    ∀ experience ∈ (shortTermAfter p maxSize before).values, experience.id ≠ experienceId →
      experience ∈ (shortTermAfter p maxSize (before ++ [.forget experienceId])).values
  silent : ∀ before experienceId since, before ++ .forget experienceId :: since <+: history →
    (∀ experience, .remember experience ∈ since → experience.id ≠ experienceId) →
      ∀ context options,
        ∀ m ∈ recallMemories p (shortTermAfter p maxSize
          (before ++ .forget experienceId :: since)) context
          options, m.type = .shortTerm → m.sourceId ≠ some experienceId
  recent : ∀ before, before <+: history →
    Recent maxSize (shortTermAfter p maxSize before) (experiencesAfter before)

/-- Experiences of words alone, all as relevant as each other. -/
def plain : Platform Unit Nat where
  blank := ()
  toLowerCase := id
  calculateRelevance _ _ := 0
  certain := 1
  search _ _ := []
  query _ := []

end AgentMemory

end ActorWeb.HybridMemory
