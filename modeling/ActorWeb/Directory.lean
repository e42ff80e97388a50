import ActorWeb.ActorAddress
import ActorWeb.OrderedMap
import ActorWeb.Transition
import Mathlib.Data.List.Sort

namespace ActorWeb

open OrderedMap

open Option hiding mem_map

open List

inductive Ttl
  | infinite
  | time (t : Nat)
deriving DecidableEq

def Ttl.live (ttl : Ttl) (now : Nat) : Bool :=
  match ttl with
  | .infinite => true
  | .time t => now < t

abbrev NodeAddress := List Char

structure RegistryEntry where
  location : NodeAddress
  timestamp : Nat
  ttl : Ttl

structure CacheEntry where
  location : NodeAddress
  lastAccessed : Nat
  ttl : Ttl

structure RuntimeDirectoryEntry where
  address : ActorAddress
  location : NodeAddress
  timestamp : Nat
  ttl : Ttl
deriving DecidableEq

structure DirectoryConfig where
  (cacheTtl maxCacheSize : Nat)
  nodeAddress : NodeAddress

structure Directory where
  config : DirectoryConfig
  cache : OrderedMap ActorAddress CacheEntry
  registry : OrderedMap ActorAddress RegistryEntry

namespace Directory

variable (config : DirectoryConfig)

def create : Directory :=
  { config, cache := OrderedMap.empty, registry := OrderedMap.empty }

def ownEntry (now : Nat) (location : NodeAddress) : RegistryEntry :=
  { location
    timestamp := now
    ttl := if location = config.nodeAddress then .infinite else .time (now + config.cacheTtl) }

def register (d : Directory) (now : Nat) (address : ActorAddress) (location : NodeAddress) :
    Directory :=
  { d with registry := d.registry.set address (ownEntry d.config now location) }

def unregister (d : Directory) (address : ActorAddress) : Directory :=
  { d with registry := d.registry.delete address, cache := d.cache.delete address }

def applyRemoteEntry (d : Directory) (entry : RuntimeDirectoryEntry) : Directory :=
  { d with
    registry := d.registry.set entry.address
      { location := entry.location, timestamp := entry.timestamp, ttl := entry.ttl }
    cache := d.cache.delete entry.address }

def removeRemoteEntry (d : Directory) (address : ActorAddress) : Directory :=
  { d with registry := d.registry.delete address, cache := d.cache.delete address }

def entriesToEvict (d : Directory) : List ActorAddress :=
  ((d.cache.entries.insertionSort fun a b => a.2.lastAccessed ≤ b.2.lastAccessed).take
    (d.cache.entries.length + 1 - d.config.maxCacheSize)).map Prod.fst

def evictOldEntries (d : Directory) : Directory :=
  { d with cache := d.cache.filter fun key _ => key ∉ d.entriesToEvict }

def liveCacheEntry (d : Directory) (now : Nat) (address : ActorAddress) : Option CacheEntry :=
  (d.cache.get address).filter fun e => e.ttl.live now

def liveRegistryEntry (d : Directory) (now : Nat) (address : ActorAddress) :
    Option RegistryEntry :=
  (d.registry.get address).filter fun e => e.ttl.live now

def lookup (d : Directory) (now : Nat) (address : ActorAddress) : Directory × Option NodeAddress :=
  match d.liveCacheEntry now address with
  | some cached =>
    ({ d with cache := d.cache.set address { cached with lastAccessed := now } },
      some cached.location)
  | none =>
    match d.liveRegistryEntry now address with
    | none => (d, none)
    | some entry =>
      ({ d.evictOldEntries with
         cache := d.evictOldEntries.cache.set address
           { location := entry.location, lastAccessed := now
             ttl := .time (now + d.config.cacheTtl) } },
        some entry.location)

def exportEntry (now : Nat) (key : ActorAddress)
    (entry : RegistryEntry) : Option RuntimeDirectoryEntry :=
  match ActorAddress.parseActorPath key with
  | .error _ => none
  | .ok address =>
    if entry.ttl.live now ∧ ActorAddress.isLocalAddress address = some false then
      some { address, location := entry.location, timestamp := entry.timestamp
             ttl := if entry.location = config.nodeAddress then .time (now + config.cacheTtl)
               else entry.ttl }
    else none

def exportEntries (d : Directory) (now : Nat) : List RuntimeDirectoryEntry :=
  d.registry.entries.filterMap fun e => exportEntry d.config now e.1 e.2

def getAll (d : Directory) (now : Nat) : List (ActorAddress × NodeAddress) :=
  let registered := d.registry.entries.filter fun e => e.2.ttl.live now
  let cached := d.cache.entries.filter fun e =>
    e.2.ttl.live now && e.1 ∉ registered.map Prod.fst
  registered.map (fun e => (e.1, e.2.location)) ++ cached.map fun e => (e.1, e.2.location)

def cleanupExpiredEntries (d : Directory) (now : Nat) : Directory :=
  { d with
    cache := d.cache.filter fun _ e => e.ttl.live now
    registry := d.registry.filter fun _ e => e.ttl.live now }

def cleanup (d : Directory) : Directory :=
  { d with cache := OrderedMap.empty, registry := OrderedMap.empty }

theorem Ttl_live_of_le {ttl : Ttl} {now later : Nat} (h : now ≤ later) (hl : ttl.live later) :
    ttl.live now := by
  cases ttl with
  | infinite => rfl
  | time t => simp only [Ttl.live, decide_eq_true_eq] at hl ⊢; omega

@[simp] theorem register_config (d : Directory) (now : Nat) (a : ActorAddress) (l : NodeAddress) :
    (d.register now a l).config = d.config := rfl

@[simp] theorem register_cache (d : Directory) (now : Nat) (a : ActorAddress) (l : NodeAddress) :
    (d.register now a l).cache = d.cache := rfl

@[simp] theorem unregister_config (d : Directory) (a : ActorAddress) :
    (d.unregister a).config = d.config := rfl

@[simp] theorem applyRemoteEntry_config (d : Directory) (e : RuntimeDirectoryEntry) :
    (d.applyRemoteEntry e).config = d.config := rfl

theorem applyRemoteEntries_config (d : Directory) (entries : List RuntimeDirectoryEntry) :
    (entries.foldl applyRemoteEntry d).config = d.config := by
  induction entries generalizing d with
  | nil => rfl
  | cons e entries ih => exact ih (d.applyRemoteEntry e)

theorem removeRemoteEntries_config (d : Directory) (addresses : List ActorAddress) :
    (addresses.foldl removeRemoteEntry d).config = d.config := by
  induction addresses generalizing d with
  | nil => rfl
  | cons a addresses ih => exact ih (d.removeRemoteEntry a)

@[simp] theorem evictOldEntries_registry (d : Directory) :
    d.evictOldEntries.registry = d.registry := rfl

@[simp] theorem lookup_registry (d : Directory) (now : Nat) (a : ActorAddress) :
    (d.lookup now a).1.registry = d.registry := by
  unfold lookup
  split
  · rfl
  · split <;> rfl

@[simp] theorem lookup_config (d : Directory) (now : Nat) (a : ActorAddress) :
    (d.lookup now a).1.config = d.config := by
  unfold lookup
  split
  · rfl
  · split <;> rfl

theorem lookup_answer (d : Directory) (now : Nat) (a : ActorAddress) : (d.lookup now a).2 =
      ((d.liveCacheEntry now a).map CacheEntry.location).or
        ((d.liveRegistryEntry now a).map RegistryEntry.location) := by
  unfold lookup
  split
  case h_1 cached hc => rw [hc]; rfl
  case h_2 hc =>
    rw [hc, map_none, none_or]
    split
    case h_1 he => rw [he]; rfl
    case h_2 entry he => rw [he]; rfl

variable {d : Directory} {a : ActorAddress}

theorem applyRemoteEntries_get_of_absent
    {entries : List RuntimeDirectoryEntry} (h : ∀ e ∈ entries, e.address ≠ a) :
    (entries.foldl applyRemoteEntry d).registry.get a = d.registry.get a := by
  induction entries generalizing d with
  | nil => rfl
  | cons e entries ih =>
    rw [foldl_cons, ih fun e' he' => h e' (mem_cons_of_mem e he')]
    exact get_set_ne _ _ (h e mem_cons_self).symm

theorem applyRemoteEntries_get_of_mem
    {entries : List RuntimeDirectoryEntry} (h : ∃ e ∈ entries, e.address = a) :
    ∃ e ∈ entries, e.address = a ∧ (entries.foldl applyRemoteEntry d).registry.get a =
      some ⟨e.location, e.timestamp, e.ttl⟩ := by
  induction entries generalizing d with
  | nil => simp at h
  | cons e entries ih =>
    by_cases hrest : ∃ e' ∈ entries, e'.address = a
    · obtain ⟨e', he', ha, hget⟩ := ih (d := d.applyRemoteEntry e) hrest
      exact ⟨e', mem_cons_of_mem e he', ha, hget⟩
    · obtain ⟨e', he', rfl⟩ := h
      have habsent : ∀ e'' ∈ entries, e''.address ≠ e'.address :=
        fun e'' he'' ha => hrest ⟨e'', he'', ha⟩
      obtain rfl | he' := mem_cons.mp he'
      · refine ⟨e', mem_cons_self, rfl, ?_⟩
        rw [foldl_cons, applyRemoteEntries_get_of_absent habsent]
        exact get_set_self _ _ _
      · exact absurd rfl (habsent e' he')

theorem removeRemoteEntries_get_of_absent {addresses : List ActorAddress} (h : a ∉ addresses) :
    (addresses.foldl removeRemoteEntry d).registry.get a = d.registry.get a := by
  induction addresses generalizing d with
  | nil => rfl
  | cons b addresses ih =>
    obtain ⟨hne, hrest⟩ := not_or.mp fun h' => h (mem_cons.mpr h')
    rw [foldl_cons, ih hrest]
    exact get_delete_ne _ hne

structure Respects (d : Directory) (P : ActorAddress → NodeAddress → Ttl → Prop) : Prop where
  registry : ∀ a e, d.registry.get a = some e → P a e.location e.ttl
  cache : ∀ a e, d.cache.get a = some e → P a e.location e.ttl

section Respects

variable {P : ActorAddress → NodeAddress → Ttl → Prop} {d : Directory}

theorem create_respects (config : DirectoryConfig) : (create config).Respects P where
  registry := by simp [create]
  cache := by simp [create]

variable {now : Nat} {location : NodeAddress} {a : ActorAddress}

theorem register_respects (h : d.Respects P) {address : ActorAddress}
    (hP : ∀ ttl, P address location ttl) : (d.register now address location).Respects P where
  registry := by
    intro a e he
    simp only [register, get_set] at he
    split at he
    case isTrue ha =>
      cases he
      exact ha ▸ hP _
    case isFalse => exact h.registry a e he
  cache := h.cache

theorem applyRemoteEntry_respects (h : d.Respects P) {entry : RuntimeDirectoryEntry}
    (hP : P entry.address entry.location entry.ttl) : (d.applyRemoteEntry entry).Respects P where
  registry := by
    intro a e he
    simp only [applyRemoteEntry, get_set] at he
    split at he
    case isTrue ha =>
      cases he
      exact ha ▸ hP
    case isFalse => exact h.registry a e he
  cache := by
    intro a e he
    simp only [applyRemoteEntry, OrderedMap.get_delete] at he
    split at he
    case isTrue => cases he
    case isFalse => exact h.cache a e he

theorem removeRemoteEntry_respects (h : d.Respects P) (address : ActorAddress) :
    (d.removeRemoteEntry address).Respects P where
  registry := by
    intro a e he
    simp only [removeRemoteEntry, OrderedMap.get_delete] at he
    split at he
    case isTrue => cases he
    case isFalse => exact h.registry a e he
  cache := by
    intro a e he
    simp only [removeRemoteEntry, OrderedMap.get_delete] at he
    split at he
    case isTrue => cases he
    case isFalse => exact h.cache a e he

theorem unregister_respects (h : d.Respects P) (address : ActorAddress) :
    (d.unregister address).Respects P :=
  removeRemoteEntry_respects h address

theorem applyRemoteEntries_respects (h : d.Respects P) (entries : List RuntimeDirectoryEntry)
    (hP : ∀ e ∈ entries, P e.address e.location e.ttl) :
    (entries.foldl applyRemoteEntry d).Respects P := by
  induction entries generalizing d with
  | nil => exact h
  | cons e entries ih =>
    exact ih (applyRemoteEntry_respects h (hP e mem_cons_self))
      fun e' he' => hP e' (mem_cons_of_mem e he')

theorem removeRemoteEntries_respects (h : d.Respects P) (addresses : List ActorAddress) :
    (addresses.foldl removeRemoteEntry d).Respects P := by
  induction addresses generalizing d with
  | nil => exact h
  | cons a addresses ih => exact ih (removeRemoteEntry_respects h a)

theorem cleanupExpiredEntries_respects (h : d.Respects P) (now : Nat) :
    (d.cleanupExpiredEntries now).Respects P where
  registry := by
    intro a e he
    rw [cleanupExpiredEntries, OrderedMap.get_filter, filter_eq_some_iff] at he
    exact h.registry a e he.1
  cache := by
    intro a e he
    rw [cleanupExpiredEntries, OrderedMap.get_filter, filter_eq_some_iff] at he
    exact h.cache a e he.1

theorem evictOldEntries_respects (h : d.Respects P) : d.evictOldEntries.Respects P where
  registry := h.registry
  cache := by
    intro a e he
    rw [evictOldEntries, OrderedMap.get_filter, filter_eq_some_iff] at he
    exact h.cache a e he.1

theorem liveRegistryEntry_eq_some {e : RegistryEntry} (h : d.liveRegistryEntry now a = some e) :
    d.registry.get a = some e ∧ e.ttl.live now = true := by
  simpa [liveRegistryEntry, filter_eq_some_iff] using h

theorem liveCacheEntry_eq_some {e : CacheEntry}
    (h : d.liveCacheEntry now a = some e) : d.cache.get a = some e ∧ e.ttl.live now = true := by
  simpa [liveCacheEntry, filter_eq_some_iff] using h

theorem lookup_respects (h : d.Respects P) (hP : ∀ a l ttl t, P a l ttl → P a l (.time t))
    (now : Nat) (address : ActorAddress) : (d.lookup now address).1.Respects P where
  registry := by simpa only [lookup_registry] using h.registry
  cache := by
    intro a e he
    unfold lookup at he
    split at he
    case h_1 cached hc =>
      rw [get_set] at he
      split at he
      case isTrue ha =>
        cases he
        exact ha ▸ h.cache address cached (liveCacheEntry_eq_some hc).1
      case isFalse => exact h.cache a e he
    case h_2 =>
      split at he
      case h_1 => exact h.cache a e he
      case h_2 entry hentry =>
        rw [get_set] at he
        split at he
        case isTrue ha =>
          cases he
          exact ha ▸ hP _ _ _ _ (h.registry address entry (liveRegistryEntry_eq_some hentry).1)
        case isFalse => exact (evictOldEntries_respects h).cache a e he

theorem lookup_answer_respects (h : d.Respects P) (ha : (d.lookup now a).2 = some location) :
    ∃ ttl, P a location ttl := by
  rw [lookup_answer, or_eq_some_iff] at ha
  obtain hc | ⟨-, hr⟩ := ha
  · obtain ⟨e, he, rfl⟩ := map_eq_some_iff.mp hc
    exact ⟨_, h.cache a e (liveCacheEntry_eq_some he).1⟩
  · obtain ⟨e, he, rfl⟩ := map_eq_some_iff.mp hr
    exact ⟨_, h.registry a e (liveRegistryEntry_eq_some he).1⟩

theorem mem_getAll_respects (h : d.Respects P) (hm : (a, location) ∈ d.getAll now) :
    ∃ ttl, P a location ttl := by
  simp only [getAll, mem_append, mem_map, mem_filter, Prod.mk.injEq] at hm
  obtain ⟨e, ⟨he, -⟩, rfl, rfl⟩ | ⟨e, ⟨he, -⟩, rfl, rfl⟩ := hm
  · exact ⟨_, h.registry e.1 e.2 (get_eq_some_iff.mpr he)⟩
  · exact ⟨_, h.cache e.1 e.2 (get_eq_some_iff.mpr he)⟩

theorem mem_exportEntries {entry : RuntimeDirectoryEntry} (hm : entry ∈ d.exportEntries now) :
    ActorAddress.isLocalAddress entry.address = some false ∧
      ∃ e, d.registry.get entry.address = some e ∧ entry.location = e.location ∧
        entry.ttl = if e.location = d.config.nodeAddress then .time (now + d.config.cacheTtl)
          else e.ttl := by
  obtain ⟨⟨key, e⟩, he, hentry⟩ := mem_filterMap.mp hm
  unfold exportEntry at hentry
  split at hentry
  case h_1 => cases hentry
  case h_2 address hparse =>
    obtain rfl := ActorAddress.parseActorPath_eq_ok hparse
    split at hentry
    case isFalse => cases hentry
    case isTrue hlive =>
      cases hentry
      exact ⟨hlive.2, e, get_eq_some_iff.mpr he, rfl, rfl⟩

end Respects

end Directory

end ActorWeb
