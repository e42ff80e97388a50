import ActorWeb.Directory

namespace ActorWeb.DirectoryLookup

open Option Transition

inductive Operation
  | register (address : ActorAddress) (location : NodeAddress)
  | unregister (address : ActorAddress)
  | applyRemoteEntry (entry : RuntimeDirectoryEntry)
  | removeRemoteEntry (address : ActorAddress)
  | lookup (address : ActorAddress)
  | cleanupExpiredEntries
  | cleanup
  | advance (ms : Nat)

def Operation.run (d : Directory) (now : Nat) : Operation → Directory
  | .register a l => d.register now a l
  | .unregister a => d.unregister a
  | .applyRemoteEntry e => d.applyRemoteEntry e
  | .removeRemoteEntry a => d.removeRemoteEntry a
  | .lookup a => (d.lookup now a).1
  | .cleanupExpiredEntries => d.cleanupExpiredEntries now
  | .cleanup => d.cleanup
  | .advance _ => d

def Operation.clock (now : Nat) : Operation → Nat
  | .advance ms => now + ms
  | _ => now

/-- A directory, the clock and the operations performed so far with their times. -/
structure Session where
  now : Nat
  directory : Directory
  history : List (Nat × Operation)

def start (config : DirectoryConfig) (now : Nat) : Session :=
  { now, directory := Directory.create config, history := [] }

def step (s : Session) (op : Operation) : Option Session :=
  some { now := op.clock s.now
         directory := op.run s.directory s.now
         history := s.history ++ [(s.now, op)] }

/-- What an operation makes of the entry last written for an address. The expiry
sweep writes nothing: whether an entry has expired is a question of the time at
which it is read. -/
def Operation.written (config : DirectoryConfig) (now : Nat) (a : ActorAddress)
    (before : Option RegistryEntry) : Operation → Option RegistryEntry
  | .register b l => if a = b then some (Directory.ownEntry config now l) else before
  | .applyRemoteEntry e => if a = e.address then some ⟨e.location, e.timestamp, e.ttl⟩ else before
  | .unregister b => if a = b then none else before
  | .removeRemoteEntry b => if a = b then none else before
  | .cleanup => none
  | .lookup _ => before
  | .cleanupExpiredEntries => before
  | .advance _ => before

def lastWritten (config : DirectoryConfig) (history : List (Nat × Operation)) (a : ActorAddress) :
    Option RegistryEntry :=
  history.foldl (fun before e => e.2.written config e.1 a before) none

namespace Session

variable (s : Session)

def expected (a : ActorAddress) : Option NodeAddress :=
  ((lastWritten s.directory.config s.history a).filter fun e => e.ttl.live s.now).map
    RegistryEntry.location

/-- A lookup taken here returns the location last written, unless it expired. -/
def ReadsWrites (op : Operation) (_ : Session) : Prop :=
  ∀ a, op = .lookup a → (s.directory.lookup s.now a).2 = s.expected a

/-- A lookup taken here that hits the cache finds the registry in agreement: its
entry for the address is live and has the cached location. -/
def CacheAgrees (op : Operation) : Prop :=
  ∀ a cached, op = .lookup a → s.directory.liveCacheEntry s.now a = some cached →
    (s.directory.liveRegistryEntry s.now a).map RegistryEntry.location = some cached.location

/-- From now on the registry holds what was last written and has not expired. -/
def Mirrored : Prop :=
  ∀ later a, s.now ≤ later → s.directory.liveRegistryEntry later a =
    (lastWritten s.directory.config s.history a).filter fun e => e.ttl.live later

end Session

theorem lastWritten_concat (config : DirectoryConfig) (history : List (Nat × Operation))
    (now : Nat) (op : Operation) (a : ActorAddress) :
    lastWritten config (history ++ [(now, op)]) a =
      op.written config now a (lastWritten config history a) := by
  rw [lastWritten, List.foldl_append]
  rfl

variable (op : Operation)

theorem run_config (d : Directory) (now : Nat) : (op.run d now).config = d.config := by
  cases op with
  | lookup a => exact d.lookup_config now a
  | _ => rfl

theorem start_mirrored (config : DirectoryConfig) (now : Nat) : (start config now).Mirrored :=
  fun _ _ _ => rfl

theorem run_liveRegistryEntry (d : Directory) {now later : Nat} (a : ActorAddress)
    (h : now ≤ later) : (op.run d now).liveRegistryEntry later a =
      (op.written d.config now a (d.registry.get a)).filter fun e => e.ttl.live later := by
  cases op with
  | register b l =>
    simp only [Operation.run, Operation.written, Directory.liveRegistryEntry, Directory.register,
      OrderedMap.get_set]
  | applyRemoteEntry e =>
    simp only [Operation.run, Operation.written, Directory.liveRegistryEntry,
      Directory.applyRemoteEntry, OrderedMap.get_set]
  | unregister b =>
    simp only [Operation.run, Operation.written, Directory.liveRegistryEntry,
      Directory.unregister, OrderedMap.get_delete]
  | removeRemoteEntry b =>
    simp only [Operation.run, Operation.written, Directory.liveRegistryEntry,
      Directory.removeRemoteEntry, OrderedMap.get_delete]
  | lookup b =>
    simp only [Operation.run, Operation.written, Directory.liveRegistryEntry,
      Directory.lookup_registry]
  | cleanupExpiredEntries =>
    simp only [Operation.run, Operation.written, Directory.liveRegistryEntry,
      Directory.cleanupExpiredEntries, OrderedMap.get_filter, filter_filter]
    cases d.registry.get a with
    | none => rfl
    | some e =>
      have hlive := @Directory.Ttl_live_of_le e.ttl now later h
      cases hl : e.ttl.live later <;> simp_all [Option.filter]
  | cleanup => rfl
  | advance ms => rfl

theorem written_filter {config : DirectoryConfig} {now : Nat} {a : ActorAddress} {p}
    {before before' : Option RegistryEntry} (h : before.filter p = before'.filter p) :
    (op.written config now a before).filter p = (op.written config now a before').filter p := by
  cases op <;> simp only [Operation.written, h] <;> split <;> simp only [h]

theorem mirrored_step {s t : Session} {op : Operation} (hs : s.Mirrored)
    (h : step s op = some t) : t.Mirrored := by
  cases h
  intro later a hlater
  have hnow : s.now ≤ later := by
    refine le_trans ?_ hlater
    cases op <;> simp [Operation.clock]
  rw [run_liveRegistryEntry op s.directory a hnow, run_config, lastWritten_concat]
  exact written_filter op (hs later a hnow)

theorem readsWrites_iff {s t : Session} {op : Operation} (hs : s.Mirrored) :
    s.ReadsWrites op t ↔ s.CacheAgrees op := by
  refine forall_congr' fun a => ⟨fun h cached hop hc => ?_, fun h hop => ?_⟩
  · have := h hop
    rw [Directory.lookup_answer, hc, map_some, some_or] at this
    rw [hs s.now a le_rfl]
    exact this.symm
  · rw [Directory.lookup_answer]
    cases hc : s.directory.liveCacheEntry s.now a with
    | none =>
      rw [map_none, none_or, hs s.now a le_rfl]
      rfl
    | some cached =>
      rw [map_some, some_or, ← h cached hop hc, hs s.now a le_rfl]
      rfl

section Runs

def config : DirectoryConfig := { cacheTtl := 300, maxCacheSize := 10, nodeAddress := ['a'] }

def address : ActorAddress := "actor://b/x".toList

def movedRun : List Operation :=
  [.register address ['b'], .lookup address, .register address ['c'], .lookup address]

def outlivedRun : List Operation :=
  [.applyRemoteEntry ⟨address, ['b'], 0, .time 10⟩, .lookup address, .advance 20, .lookup address]

end Runs

end ActorWeb.DirectoryLookup
