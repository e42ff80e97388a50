import ActorWeb.DirectoryCluster

namespace ActorWeb.DirectoryOwnership

open OrderedMap Option

open DirectoryNode DirectoryRouting DirectoryCluster

/-- Every actor alive on the node is registered there, for good, and is resolved
to the node. -/
def Keeps (node : NodeAddress) (s : DirectoryNode) : Prop :=
  ∀ a, s.actors.get a = some () →
    (∃ e, s.directory.registry.get a = some e ∧ e.location = node ∧ e.ttl = .infinite) ∧
      s.lookupAnswer a = some node

/-- No retraction that arrives and no synced entry that is applied names an actor
alive on the node. -/
def Spares (s : DirectoryNode) : Event → Prop
  | .receive _ (.directoryUnregister a) => s.actors.get a = none
  | .settleDirectorySync token => ∀ sync entries, s.readiness.syncs.get token = some sync →
      sync.stage = .answered entries → s.isCurrent token sync = true →
        ∀ e ∈ entries, s.actors.get e.address = none
  | _ => True

section Node

variable {node : NodeAddress} {s t : DirectoryNode}

theorem lookupAnswer_of_registered (h : NodeRouted node s) {a : ActorAddress}
    (hm : Minted node a) {e : RegistryEntry} (he : s.directory.registry.get a = some e)
    (hlocation : e.location = node) (hlive : e.ttl = .infinite) : s.lookupAnswer a = some node := by
  rw [lookupAnswer, Directory.lookup_answer]
  cases hc : s.directory.liveCacheEntry s.now a with
  | some cached =>
    have hcached := (h.directory.cache a cached (Directory.liveCacheEntry_eq_some hc).1)
    rw [map_some, some_or, hcached.eq_of_minted hm]
  | none =>
    have hregistered : s.directory.liveRegistryEntry s.now a = some e := by
      rw [Directory.liveRegistryEntry, he, filter_some, hlive]
      rfl
    rw [hregistered, map_none, none_or, map_some, hlocation]

theorem keeps_of_registered (h : NodeRouted node t) (hreg : ∀ a, t.actors.get a = some () →
      ∃ e, t.directory.registry.get a = some e ∧ e.location = node ∧ e.ttl = .infinite) :
    Keeps node t := by
  intro a ha
  obtain ⟨e, he, hlocation, hlive⟩ := hreg a ha
  exact ⟨hreg a ha, lookupAnswer_of_registered h (h.actors a ha) he hlocation hlive⟩

inductive RegistryMove (s t : DirectoryNode) : Event → Prop
  | still (e : Event) : t.actors = s.actors → t.directory.registry = s.directory.registry →
      Spares s e → RegistryMove s t e
  | spawned (id : List Char) (a : ActorAddress) : t.actors = s.actors.set a () →
      t.directory.registry =
        s.directory.registry.set a (Directory.ownEntry s.directory.config s.now s.nodeAddress) →
      RegistryMove s t (.spawn id)
  | stopped (a : ActorAddress) : t.actors = s.actors.delete a →
      t.directory.registry = s.directory.registry.delete a → RegistryMove s t (.stopActor a)
  | advertised (source : NodeAddress) (entry : RuntimeDirectoryEntry) : t.actors = s.actors →
      t.directory = s.directory.applyRemoteEntry entry →
      RegistryMove s t (.receive source (.directoryRegister entry))
  | retracted (source : NodeAddress) (a : ActorAddress) : t.actors = s.actors →
      t.directory.registry = s.directory.registry.delete a →
      RegistryMove s t (.receive source (.directoryUnregister a))
  | synced (token : Nat) (sync : DirectorySync) (entries : List RuntimeDirectoryEntry) :
      s.readiness.syncs.get token = some sync → sync.stage = .answered entries →
      s.isCurrent token sync = true → t.actors = s.actors →
      t.directory = entries.foldl Directory.applyRemoteEntry s.directory →
      RegistryMove s t (.settleDirectorySync token)
  | purged (addresses : List ActorAddress) : addresses ∈ s.disconnecting → t.actors = s.actors →
      t.directory = addresses.foldl Directory.removeRemoteEntry s.directory →
      RegistryMove s t .disconnectedEntries
  | swept : t.actors = s.actors →
      t.directory.registry = s.directory.registry.filter (fun _ e => e.ttl.live s.now) →
      RegistryMove s t .cleanupExpiredEntries

theorem enqueueMessage_still (s : DirectoryNode) (a : ActorAddress) (m : Nat) :
    (s.enqueueMessage a m).1.actors = s.actors ∧
      (s.enqueueMessage a m).1.directory.registry = s.directory.registry := by
  unfold DirectoryNode.enqueueMessage
  split
  · exact ⟨rfl, rfl⟩
  · split
    · exact ⟨rfl, s.directory.lookup_registry s.now a⟩
    · exact ⟨rfl, rfl⟩

theorem lookup_still (s : DirectoryNode) (a : ActorAddress) : (s.lookup a).actors = s.actors ∧
      (s.lookup a).directory.registry = s.directory.registry := by
  unfold DirectoryNode.lookup
  split
  · split <;> exact ⟨rfl, s.directory.lookup_registry s.now a⟩
  · exact ⟨rfl, s.directory.lookup_registry s.now a⟩

theorem answerDirectorySync_still (s : DirectoryNode) (requestId : Nat)
    (entries : List RuntimeDirectoryEntry) :
    (s.answerDirectorySync requestId entries).actors = s.actors ∧
      (s.answerDirectorySync requestId entries).directory.registry = s.directory.registry := by
  unfold answerDirectorySync
  split
  · exact ⟨rfl, rfl⟩
  · split <;> exact ⟨rfl, rfl⟩

theorem receive_registryMove (s : DirectoryNode) (source : NodeAddress) (m : RuntimeMessage) :
    RegistryMove s (s.receive source m).1 (.receive source m) := by
  cases m with
  | directoryRegister entry => exact .advertised source entry rfl rfl
  | directoryUnregister a => exact .retracted source a rfl rfl
  | directorySyncRequest requestId => exact .still _ rfl rfl trivial
  | directorySyncResponse requestId entries =>
    obtain ⟨hactors, hregistry⟩ := answerDirectorySync_still s requestId entries
    exact .still _ hactors hregistry trivial
  | remoteSend a m =>
    obtain ⟨hactors, hregistry⟩ := enqueueMessage_still s a m
    exact .still _ hactors hregistry trivial

theorem settleDirectorySync_registryMove {token : Nat} {sync : DirectorySync}
    (hsync : s.readiness.syncs.get token = some sync)
    (h : s.settleDirectorySync token sync = some t) :
    RegistryMove s t (.settleDirectorySync token) := by
  unfold DirectoryNode.settleDirectorySync at h
  split at h
  case h_1 => cases h
  case h_2 => cases h
  case h_3 entries hstage =>
    split at h
    case isTrue hcur =>
      cases h
      exact .synced token sync entries hsync hstage hcur rfl rfl
    case isFalse hcur =>
      cases h
      refine .still _ rfl rfl ?_
      intro sync' entries' hsync' _ hcur'
      obtain rfl := some.inj (hsync.symm.trans hsync')
      exact absurd hcur' hcur
  case h_4 message hstage =>
    have hspares : Spares s (.settleDirectorySync token) := by
      intro sync' entries' hsync' hstage' _
      obtain rfl := some.inj (hsync.symm.trans hsync')
      cases hstage.symm.trans hstage'
    split at h <;>
      · cases h
        exact .still _ rfl rfl hspares

theorem handle_registryMove {e : Event} {out : List Outgoing} (ht : s.handle e = some (t, out)) :
    RegistryMove s t e := by
  cases e with
  | spawn id =>
    cases ht
    unfold DirectoryNode.spawn
    split
    case h_1 => exact .still _ rfl rfl trivial
    case h_2 a ha => exact .spawned id a rfl rfl
  | registered a | unregistered a =>
    simp only [handle] at ht
    split at ht
    · cases ht
      exact .still _ rfl rfl trivial
    · cases ht
  | stopActor a =>
    cases ht
    exact .stopped a rfl rfl
  | receive source m =>
    obtain rfl : (s.receive source m).1 = t := congrArg Prod.fst (some.inj ht)
    exact receive_registryMove s source m
  | transportDisconnected n | join n | peerConnected n =>
    simp only [handle] at ht
    split at ht
    · cases ht
    · cases ht
      exact .still _ rfl rfl trivial
  | disconnectedEntries =>
    simp only [handle] at ht
    split at ht
    case h_1 => cases ht
    case h_2 addresses rest hd =>
      cases ht
      exact .purged addresses (hd ▸ List.mem_cons_self) rfl rfl
  | lookup a =>
    cases ht
    obtain ⟨hactors, hregistry⟩ := lookup_still s a
    exact .still _ hactors hregistry trivial
  | directoryLookup a =>
    cases ht
    exact .still _ rfl (s.directory.lookup_registry s.now a) trivial
  | requestDirectorySync token | failDirectorySync token message =>
    obtain ⟨sync, -, hs⟩ := bind_eq_some_iff.mp ht
    split at hs
    · cases hs
      exact .still _ rfl rfl trivial
    · cases hs
  | settleDirectorySync token =>
    obtain ⟨sync, hsync, hs⟩ := bind_eq_some_iff.mp ht
    obtain ⟨t', hsettle, hpair⟩ := map_eq_some_iff.mp hs
    cases hpair
    exact settleDirectorySync_registryMove hsync hsettle
  | enqueueMessage a m =>
    obtain rfl : (s.enqueueMessage a m).1 = t := congrArg Prod.fst (some.inj ht)
    obtain ⟨hactors, hregistry⟩ := enqueueMessage_still s a m
    exact .still _ hactors hregistry trivial
  | cleanupExpiredEntries =>
    cases ht
    exact .swept rfl rfl
  | transportConnected n | leave n | advance ms | peerDisconnected n | peerIdentity n identity =>
    cases ht
    exact .still _ rfl rfl trivial

theorem not_keeps_of_unregistered {a : ActorAddress} (ha : t.actors.get a = some ())
    (hreg : ∀ e, t.directory.registry.get a = some e → e.ttl ≠ .infinite) : ¬ Keeps node t := by
  intro h
  obtain ⟨⟨e, he, -, hlive⟩, -⟩ := h a ha
  exact hreg e he hlive

theorem eq_none_of_ne_some_unit {x : Option Unit} (h : x ≠ some ()) : x = none := by
  cases x with
  | none => rfl
  | some u => exact absurd rfl h

theorem keeps_iff_spares {e : Event} {out : List Outgoing} (h : NodeRouted node s)
    (hm : ∀ source m, e = .receive source m → MessageRouted m)
    (hadvertised : ∀ source entry, e = .receive source (.directoryRegister entry) →
      entry.location ≠ node)
    (hs : Keeps node s) (ht : s.handle e = some (t, out)) : Keeps node t ↔ Spares s e := by
  have htrouted := handle_routed h hm ht
  cases handle_registryMove ht with
  | still _ hactors hregistry hspares =>
    refine iff_of_true (keeps_of_registered htrouted fun a ha => ?_) hspares
    rw [hregistry]
    exact (hs a (hactors ▸ ha)).1
  | spawned id a hactors hregistry =>
    refine iff_of_true (keeps_of_registered htrouted fun b hb => ?_) trivial
    rw [hactors, get_set] at hb
    rw [hregistry, get_set]
    split at hb
    case isTrue hba =>
      refine ⟨_, if_pos hba, h.address, ?_⟩
      simp only [Directory.ownEntry, h.address, h.config, if_true]
    case isFalse hba =>
      rw [if_neg hba]
      exact (hs b hb).1
  | stopped a hactors hregistry =>
    refine iff_of_true (keeps_of_registered htrouted fun b hb => ?_) trivial
    rw [hactors, OrderedMap.get_delete] at hb
    rw [hregistry, OrderedMap.get_delete]
    split at hb
    case isTrue => cases hb
    case isFalse hba =>
      rw [if_neg hba]
      exact (hs b hb).1
  | advertised source entry hactors hdirectory =>
    refine iff_of_true (keeps_of_registered htrouted fun b hb => ?_) trivial
    rw [hactors] at hb
    have hentry : EntryRouted entry := hm source _ rfl
    have hne : b ≠ entry.address := by
      rintro rfl
      exact hadvertised source entry rfl (hentry.1.eq_of_minted (h.actors _ hb))
    rw [hdirectory, Directory.applyRemoteEntry, get_set_ne _ _ hne]
    exact (hs b hb).1
  | retracted source a hactors hregistry =>
    constructor
    · intro hkeeps
      refine eq_none_of_ne_some_unit fun ha => ?_
      refine not_keeps_of_unregistered (hactors ▸ ha) (fun e he => ?_) hkeeps
      rw [hregistry, get_delete_self] at he
      cases he
    · intro hspares
      refine keeps_of_registered htrouted fun b hb => ?_
      rw [hactors] at hb
      have hne : b ≠ a := by
        rintro rfl
        cases hb.symm.trans hspares
      rw [hregistry, get_delete_ne _ hne]
      exact (hs b hb).1
  | synced token sync entries hsync hstage hcur hactors hdirectory =>
    have hentries := h.answered token sync entries hsync hstage
    constructor
    · intro hkeeps sync' entries' hsync' hstage' _ e he
      obtain rfl := some.inj (hsync.symm.trans hsync')
      obtain rfl := SyncStage.answered.inj (hstage.symm.trans hstage')
      refine eq_none_of_ne_some_unit fun ha => ?_
      refine not_keeps_of_unregistered (hactors ▸ ha) (fun entry hentry => ?_) hkeeps
      obtain ⟨e', he', -, hget⟩ :=
        Directory.applyRemoteEntries_get_of_mem (d := s.directory) ⟨e, he, rfl⟩
      rw [hdirectory, hget] at hentry
      exact some.inj hentry ▸ (hentries e' he').2
    · intro hspares
      refine keeps_of_registered htrouted fun b hb => ?_
      rw [hactors] at hb
      have habsent : ∀ e ∈ entries, e.address ≠ b := by
        rintro e he rfl
        cases hb.symm.trans (hspares sync entries hsync hstage hcur e he)
      rw [hdirectory, Directory.applyRemoteEntries_get_of_absent habsent]
      exact (hs b hb).1
  | purged addresses hmem hactors hdirectory =>
    refine iff_of_true (keeps_of_registered htrouted fun b hb => ?_) trivial
    rw [hactors] at hb
    have habsent : b ∉ addresses := fun hb' =>
      h.disconnecting addresses hmem b hb' (h.actors b hb)
    rw [hdirectory, Directory.removeRemoteEntries_get_of_absent habsent]
    exact (hs b hb).1
  | swept hactors hregistry =>
    refine iff_of_true (keeps_of_registered htrouted fun b hb => ?_) trivial
    rw [hactors] at hb
    obtain ⟨e, he, hlocation, hlive⟩ := (hs b hb).1
    refine ⟨e, ?_, hlocation, hlive⟩
    rw [hregistry, OrderedMap.get_filter, he, filter_some, hlive]
    rfl

end Node

def eventOf (c : Cluster) : Action → Option (NodeAddress × Event)
  | .local n e => some (n, e)
  | .enqueueMessage n a => some (n, .enqueueMessage a c.nextMessage)
  | .deliver k =>
    (c.inFlight[k]?).map fun p =>
      (p.outgoing.destination, .receive p.source p.outgoing.message)
  | .lose _ => none

def SparesOwn (c : Cluster) (a : Action) : Prop :=
  ∀ n e, eventOf c a = some (n, e) → Spares (c.nodes n) e

def KeepsOwn (c : Cluster) : Prop := ∀ n, Keeps n (c.nodes n)

theorem step_event {c t : Cluster} {a : Action} {n : NodeAddress} {e : Event}
    (he : eventOf c a = some (n, e)) (ht : step c a = some t) :
    ∃ s out, (c.nodes n).handle e = some (s, out) ∧ t.nodes = Function.update c.nodes n s := by
  have hperform : ∀ {c' : Cluster}, c'.nodes = c.nodes → c'.perform n e = some t →
      ∃ s out, (c.nodes n).handle e = some (s, out) ∧ t.nodes = Function.update c.nodes n s := by
    intro c' hnodes hc'
    obtain ⟨⟨s, out⟩, hh, rfl⟩ := map_eq_some_iff.mp hc'
    exact ⟨s, out, hnodes ▸ hh, by rw [← hnodes]⟩
  cases a with
  | «local» n' e' =>
    cases he
    simp only [step] at ht
    split at ht
    · exact hperform rfl ht
    · cases ht
  | enqueueMessage n' a =>
    cases he
    exact hperform (by rfl) ht
  | deliver k =>
    obtain ⟨p, hp, hpair⟩ := map_eq_some_iff.mp he
    cases hpair
    obtain ⟨p', hp', ht⟩ := bind_eq_some_iff.mp ht
    obtain rfl := some.inj (hp.symm.trans hp')
    exact hperform (by rfl) ht
  | lose k => cases he

theorem keepsOwn_iff_sparesOwn {c t : Cluster} {a : Action} (h : c.Routed) (hc : KeepsOwn c)
    (ht : step c a = some t) : KeepsOwn t ↔ SparesOwn c a := by
  cases he : eventOf c a with
  | none =>
    refine iff_of_true ?_ fun n e hne => by rw [he] at hne; cases hne
    cases a with
    | lose k =>
      simp only [step] at ht
      split at ht
      · cases ht
        exact hc
      · cases ht
    | deliver k =>
      obtain ⟨p, hp, -⟩ := bind_eq_some_iff.mp ht
      simp [eventOf, hp] at he
    | «local» n e => cases he
    | enqueueMessage n a => cases he
  | some ne =>
    obtain ⟨n, e⟩ := ne
    obtain ⟨s, out, hh, hnodes⟩ := step_event he ht
    have hpacket : ∀ source m, e = .receive source m → (∃ own, a = .local n own ∧ own = e) ∨
        ∃ p ∈ c.inFlight, p.outgoing = ⟨n, m⟩ := by
      rintro source m rfl
      cases a with
      | «local» n' e' =>
        cases he
        exact .inl ⟨_, rfl, rfl⟩
      | enqueueMessage n' a => cases (Prod.mk.inj (some.inj he)).2
      | deliver k =>
        obtain ⟨p, hp, hpair⟩ := map_eq_some_iff.mp he
        obtain ⟨rfl, hevent⟩ := Prod.mk.inj hpair
        obtain ⟨-, rfl⟩ := Event.receive.inj hevent
        exact .inr ⟨p, List.mem_of_getElem? hp, rfl⟩
      | lose k => cases he
    have hown : ∀ source m, e = .receive source m → ∃ p ∈ c.inFlight, p.outgoing = ⟨n, m⟩ := by
      intro source m hreceive
      obtain ⟨own, rfl, rfl⟩ | hp := hpacket source m hreceive
      · subst hreceive
        simp [step, isOwn] at ht
      · exact hp
    have hiff : Keeps n s ↔ Spares (c.nodes n) e := by
      refine keeps_iff_spares (h.nodes n) ?_ ?_ (hc n) hh
      · intro source m hreceive
        obtain ⟨p, hp, hout⟩ := hown source m hreceive
        have := (h.packets p hp).message
        rwa [hout] at this
      · intro source entry hreceive heq
        obtain ⟨p, hp, hout⟩ := hown source _ hreceive
        have hrouted := h.packets p hp
        rw [hout] at hrouted
        exact hrouted.2 heq.symm
    constructor
    · intro hkeeps n' e' hne
      obtain ⟨rfl, rfl⟩ := Prod.mk.inj (some.inj (he.symm.trans hne))
      refine hiff.mp ?_
      have := hkeeps n
      rwa [hnodes, Function.update_self] at this
    · intro hspares n'
      rw [hnodes]
      by_cases hn : n' = n
      · subst hn
        rw [Function.update_self]
        exact hiff.mpr (hspares n' e he)
      · rw [Function.update_of_ne hn]
        exact hc n'

theorem start_keepsOwn (settings : NodeAddress → Settings) : KeepsOwn (start settings) := by
  intro n a ha
  cases ha

/-- In every state of a run every node resolves its living actors to itself and
keeps their registrations for good, exactly if no retraction that arrives and no
synced entry that is applied names an actor alive on the receiving node. -/
theorem keeps_own_iff_spares_own (settings : NodeAddress → Settings) (actions : List Action) :
    Transition.Along step (fun _ _ c => KeepsOwn c) (start settings) actions ↔
      Transition.Guarded step SparesOwn (start settings) actions :=
  Transition.along_iff_guarded (I := Cluster.Routed) (fun _ _ _ => step_routed)
    (fun _ _ _ => keepsOwn_iff_sparesOwn) (start_cluster_routed settings)
    (start_keepsOwn settings) actions

section Runs

def settings (_ : NodeAddress) : Settings := { cacheTtl := 300, maxCacheSize := 10, now := 0 }

def nodeA : NodeAddress := ['a']

def nodeB : NodeAddress := ['b']

def address : ActorAddress := "actor://a/x".toList

def advertisedRun : List Action :=
  [.local nodeA (.peerConnected nodeB), .local nodeA (.spawn ['x']),
    .local nodeA (.registered address), .deliver 0]

def echoedRun : List Action :=
  advertisedRun ++ [.local nodeA (.transportConnected nodeB),
    .local nodeA (.requestDirectorySync 0), .deliver 0, .deliver 0,
    .local nodeA (.settleDirectorySync 0)]

def retractedRun : List Action :=
  advertisedRun ++ [.local nodeB (.peerConnected nodeA), .local nodeB (.stopActor address),
    .local nodeB (.unregistered address), .deliver 0]

/-- Whether the actor is alive on node a, and the expiry of its registration there. -/
def registration (c : Cluster) : Bool × Option Ttl :=
  ((c.nodes nodeA).actors.has address,
    ((c.nodes nodeA).directory.registry.get address).map RegistryEntry.ttl)

theorem not_keepsOwn_of_registration {c : Cluster} {ttl : Option Ttl}
    (h : registration c = (true, ttl)) (httl : ttl ≠ some .infinite) : ¬ KeepsOwn c := by
  obtain ⟨halive, rfl⟩ := Prod.mk.inj h
  obtain ⟨_, hactor⟩ := isSome_iff_exists.mp halive
  intro hkeeps
  obtain ⟨⟨e, he, -, hlive⟩, -⟩ := hkeeps nodeA address hactor
  exact httl (by rw [he, map_some, hlive])

theorem echoed_and_retracted_runs_lose_registration :
    ¬ Transition.Along step (fun _ _ c => KeepsOwn c) (start settings) echoedRun ∧
      ¬ Transition.Along step (fun _ _ c => KeepsOwn c) (start settings) retractedRun := by
  have hlast : ∀ actions ttl, (Transition.exec step (start settings) actions).map registration =
      some (true, ttl) → ttl ≠ some .infinite →
      ¬ Transition.Along step (fun _ _ c => KeepsOwn c) (start settings) actions := by
    intro actions ttl hrun httl h
    obtain ⟨c, hc, hregistration⟩ := map_eq_some_iff.mp hrun
    refine not_keepsOwn_of_registration hregistration httl ?_
    exact Transition.along_invariant (I := KeepsOwn) (fun _ _ _ _ _ hkeeps => hkeeps)
      (start_keepsOwn settings) h hc
  exact ⟨hlast echoedRun (some (.time 300)) (by decide) (by decide),
    hlast retractedRun none (by decide) (by decide)⟩

end Runs

end ActorWeb.DirectoryOwnership
