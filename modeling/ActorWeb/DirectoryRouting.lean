import ActorWeb.DirectoryNode

namespace ActorWeb.DirectoryRouting

open Option hiding mem_map

open List DirectoryNode

def OnNode (a : ActorAddress) (node : NodeAddress) : Prop :=
  ∃ p, ActorAddress.parse a = some p ∧ p.node = node ∧ node ≠ ActorAddress.localNode

/-- An address a node mints for its own actors: whatever it parses to carries the
node's address, and the guardian is the one exception. -/
def Minted (node : NodeAddress) (a : ActorAddress) : Prop :=
  a = ActorAddress.guardianAddress ∨ ∀ p, ActorAddress.parse a = some p → p.node = node

/-- How a location may have come into the directory of a node: the node registered
an actor of its own, or another node told, for a limited time. -/
def Routed (node : NodeAddress) (a : ActorAddress) (location : NodeAddress) (ttl : Ttl) : Prop :=
  location = node ∧ Minted node a ∨ OnNode a location ∧ ttl ≠ .infinite

def EntryRouted (e : RuntimeDirectoryEntry) : Prop := OnNode e.address e.location ∧ e.ttl ≠ .infinite

def OutgoingRouted (o : Outgoing) : Prop :=
  match o.message with
  | .directoryRegister entry => EntryRouted entry ∧ o.destination ≠ entry.location
  | .directorySyncResponse _ entries => ∀ e ∈ entries, EntryRouted e
  | .remoteSend a _ => OnNode a o.destination
  | .directoryUnregister _ => True
  | .directorySyncRequest _ => True

structure NodeRouted (node : NodeAddress) (s : DirectoryNode) : Prop where
  address : s.nodeAddress = node
  config : s.directory.config.nodeAddress = node
  directory : s.directory.Respects (Routed node)
  actors : ∀ a, s.actors.get a = some () → Minted node a
  registering : ∀ a ∈ s.registering, Minted node a
  connected : node ∉ s.connected
  answered : ∀ token sync entries, s.readiness.syncs.get token = some sync →
    sync.stage = .answered entries → ∀ e ∈ entries, EntryRouted e
  disconnecting : ∀ addresses ∈ s.disconnecting, ∀ a ∈ addresses, ¬ Minted node a

section Addresses

variable {node location : NodeAddress} {a : ActorAddress} {ttl : Ttl}

theorem guardian_parse : ActorAddress.parse ActorAddress.guardianAddress =
      some ⟨ActorAddress.guardianId, .actor, ActorAddress.localNode⟩ := by
  decide

theorem OnNode.unique {n m : NodeAddress} (h : OnNode a n) (h' : OnNode a m) : n = m := by
  obtain ⟨p, hp, rfl, -⟩ := h
  obtain ⟨p', hp', rfl, -⟩ := h'
  rw [some.inj (hp.symm.trans hp')]

theorem OnNode.eq_of_minted (h : OnNode a location) (hm : Minted node a) : location = node := by
  obtain ⟨p, hp, rfl, hlocal⟩ := h
  obtain rfl | hall := hm
  · rw [guardian_parse] at hp
    exact absurd (some.inj hp ▸ rfl) hlocal
  · exact hall p hp

theorem onNode_of_isLocal (h : ActorAddress.isLocalAddress a = some false) : ∃ n, OnNode a n := by
  obtain ⟨p, hp, hne⟩ := map_eq_some_iff.mp h
  exact ⟨p.node, p, hp, rfl, by simpa using hne⟩

theorem Routed.onNode {n : NodeAddress} (h : Routed node a location ttl) (ha : OnNode a n) :
    location = n := by
  obtain ⟨rfl, hm⟩ | ⟨hl, -⟩ := h
  · exact (ha.eq_of_minted hm).symm
  · exact hl.unique ha

theorem Routed.eq_of_minted (h : Routed node a location ttl) (hm : Minted node a) :
    location = node := by
  obtain ⟨rfl, -⟩ | ⟨hl, -⟩ := h
  · rfl
  · exact hl.eq_of_minted hm

theorem Routed.cached (h : Routed node a location ttl) (t : Nat) :
    Routed node a location (.time t) :=
  h.imp id fun h => ⟨h.1, by simp⟩

theorem EntryRouted.routed {e : RuntimeDirectoryEntry} (h : EntryRouted e) (node : NodeAddress) :
    Routed node e.address e.location e.ttl :=
  .inr h

end Addresses

section Node

variable {node : NodeAddress} {s : DirectoryNode}

theorem start_routed (config : DirectoryConfig) (now : Nat) :
    NodeRouted config.nodeAddress (start config now) where
  address := rfl
  config := rfl
  directory := Directory.create_respects config
  actors := by simp [start]
  registering := by simp [start]
  connected := by simp [start]
  answered := by simp [start, Readiness.empty]
  disconnecting := by simp [start]

theorem NodeRouted.ofDirectory (h : NodeRouted node s) {d : Directory}
    (hconfig : d.config = s.directory.config) (hd : d.Respects (Routed node)) :
    NodeRouted node { s with directory := d } :=
  { h with
    config := by rw [hconfig]; exact h.config
    directory := hd }

variable {r : Readiness}
variable {a : ActorAddress}
variable {n : NodeAddress}
variable {sync : DirectorySync}
variable {t : DirectoryNode}
variable {o : Outgoing}
variable {m : Nat}
variable {e : Event}
variable {out : List Outgoing}

theorem NodeRouted.ofReadiness (h : NodeRouted node s)
    (hr : ∀ token sync entries, r.syncs.get token = some sync → sync.stage = .answered entries →
      ∀ e ∈ entries, EntryRouted e) : NodeRouted node { s with readiness := r } :=
  { h with answered := hr }

theorem spawnAddress_minted {id : List Char} (h : NodeRouted node s)
    (ha : s.spawnAddress id = .ok a) : Minted node a := by
  unfold spawnAddress at ha
  split at ha
  case isTrue => exact .inl (Except.ok.inj ha).symm
  case isFalse =>
    rw [h.address] at ha
    exact .inr fun p hp => ActorAddress.parse_node_of_mint ha hp

theorem spawn_routed (h : NodeRouted node s) (id : List Char) : NodeRouted node (s.spawn id) := by
  unfold DirectoryNode.spawn
  split
  case h_1 => exact h
  case h_2 a ha =>
    have hm := spawnAddress_minted h ha
    have hdir : (s.directory.register s.now a s.nodeAddress).Respects (Routed node) :=
      Directory.register_respects h.directory fun ttl => .inl ⟨h.address, hm⟩
    refine { h with directory := hdir, actors := ?_, registering := ?_ }
    · intro b hb
      simp only [OrderedMap.get_set] at hb
      split at hb
      case isTrue hab => exact hab ▸ hm
      case isFalse => exact h.actors b hb
    · intro b hb
      obtain hb | hb := mem_append.mp hb
      · exact h.registering b hb
      · exact mem_singleton.mp hb ▸ hm

theorem stopActor_routed (h : NodeRouted node s) (a : ActorAddress) :
    NodeRouted node (s.stopActor a) :=
  { h with
    directory := Directory.unregister_respects h.directory a
    actors := by
      intro b hb
      simp only [DirectoryNode.stopActor, OrderedMap.get_delete] at hb
      split at hb
      · cases hb
      · exact h.actors b hb }

theorem directoryLookup_routed (h : NodeRouted node s) (a : ActorAddress) :
    NodeRouted node (s.directoryLookup a) :=
  h.ofDirectory (s.directory.lookup_config s.now a)
    (Directory.lookup_respects h.directory (fun _ _ _ t hr => hr.cached t) s.now a)

theorem ensure_answered {key : ConnectionKey} {b : Bool}
    {token : Nat} {entries : List RuntimeDirectoryEntry}
    (hs : (r.ensure n key b).syncs.get token = some sync) (he : sync.stage = .answered entries) :
    r.syncs.get token = some sync := by
  unfold Readiness.ensure at hs
  split at hs
  case isTrue => exact hs
  case isFalse =>
    simp only [Readiness.beginAttempt, OrderedMap.get_set] at hs
    split at hs
    case isTrue =>
      cases hs
      cases he
    case isFalse => exact hs

theorem ensureRemoteDirectoryReady_routed (h : NodeRouted node s) (n : NodeAddress) (b : Bool) :
    NodeRouted node (s.ensureRemoteDirectoryReady n b) :=
  h.ofReadiness fun token sync entries hs he =>
    h.answered token sync entries (ensure_answered hs he) he

theorem setStage_routed (h : NodeRouted node s) {token : Nat} {stage : SyncStage}
    (hstage : ∀ entries, stage = .answered entries → ∀ e ∈ entries, EntryRouted e) :
    NodeRouted node { s with readiness := s.readiness.setStage token sync stage } := by
  refine h.ofReadiness fun token' sync' entries hs he => ?_
  simp only [Readiness.setStage, OrderedMap.get_set] at hs
  split at hs
  case isTrue =>
    cases hs
    exact hstage entries he
  case isFalse => exact h.answered token' sync' entries hs he

theorem finish_answered {token token' : Nat}
    (hs : (r.finish token).syncs.get token' = some sync) : r.syncs.get token' = some sync := by
  simp only [Readiness.finish, OrderedMap.get_delete] at hs
  split at hs
  · cases hs
  · exact hs

theorem withdraw_syncs (r : Readiness) (token : Nat) (sync : DirectorySync) :
    (r.withdraw token sync).syncs = r.syncs := by
  unfold Readiness.withdraw
  split <;> rfl

theorem settleDirectorySync_routed (h : NodeRouted node s) {token : Nat}
    (hsync : s.readiness.syncs.get token = some sync)
    (ht : s.settleDirectorySync token sync = some t) : NodeRouted node t := by
  have hfinish : ∀ token' sync' entries,
      (s.readiness.finish token).syncs.get token' = some sync' →
      sync'.stage = .answered entries → ∀ e ∈ entries, EntryRouted e :=
    fun token' sync' entries hs => h.answered token' sync' entries (finish_answered hs)
  have hwithdraw : NodeRouted node
      { s with readiness := (s.readiness.finish token).withdraw token sync } :=
    h.ofReadiness (by rw [withdraw_syncs]; exact hfinish)
  unfold DirectoryNode.settleDirectorySync at ht
  split at ht
  case h_1 => cases ht
  case h_2 => cases ht
  case h_3 entries hstage =>
    split at ht
    case isTrue =>
      cases ht
      have hentries : ∀ e ∈ entries, Routed node e.address e.location e.ttl :=
        fun e he => (h.answered token sync entries hsync hstage e he).routed node
      exact (h.ofDirectory (s.directory.applyRemoteEntries_config entries)
        (Directory.applyRemoteEntries_respects h.directory entries hentries)).ofReadiness hfinish
    case isFalse =>
      cases ht
      exact hwithdraw
  case h_4 message hstage =>
    split at ht
    case isTrue =>
      cases ht
      exact h.ofReadiness hfinish
    case isFalse =>
      cases ht
      exact hwithdraw

theorem handleTransportDisconnected_routed (h : NodeRouted node s)
    (hn : n ≠ s.nodeAddress) : NodeRouted node (s.handleTransportDisconnected n) :=
  { h with
    disconnecting := by
      intro addresses hm a ha hminted
      obtain hm | hm := mem_append.mp hm
      · exact h.disconnecting addresses hm a ha hminted
      · rw [mem_singleton.mp hm] at ha
        obtain ⟨⟨a', location⟩, hall, rfl⟩ := mem_map.mp ha
        obtain ⟨hmem, hlocation⟩ := mem_filter.mp hall
        obtain ⟨ttl, hrouted⟩ := Directory.mem_getAll_respects h.directory hmem
        refine hn ?_
        rw [h.address, ← of_decide_eq_true hlocation]
        exact hrouted.eq_of_minted hminted }

theorem removeRemoteDirectoryEntries_routed (h : NodeRouted node s)
    (addresses : List ActorAddress) : NodeRouted node (s.removeRemoteDirectoryEntries addresses) :=
  h.ofDirectory (s.directory.removeRemoteEntries_config addresses)
    (Directory.removeRemoteEntries_respects h.directory addresses)

theorem lookup_routed (h : NodeRouted node s) (a : ActorAddress) :
    NodeRouted node (s.lookup a) := by
  have hlookup := directoryLookup_routed h a
  unfold DirectoryNode.lookup
  split
  case h_1 n _ _ =>
    split
    · exact ensureRemoteDirectoryReady_routed hlookup n true
    · exact hlookup
  case h_2 => exact hlookup

theorem enqueueMessage_routed (h : NodeRouted node s) (a : ActorAddress) (m : Nat) :
    NodeRouted node (s.enqueueMessage a m).1 := by
  unfold DirectoryNode.enqueueMessage
  split
  · exact h
  · split
    · exact directoryLookup_routed h a
    · exact h

theorem answerDirectorySync_routed (h : NodeRouted node s) {requestId : Nat}
    {entries : List RuntimeDirectoryEntry} (he : ∀ e ∈ entries, EntryRouted e) :
    NodeRouted node (s.answerDirectorySync requestId entries) := by
  unfold DirectoryNode.answerDirectorySync
  split
  case h_1 => exact h
  case h_2 sync hsync =>
    split
    case isTrue =>
      exact setStage_routed h fun entries' heq => (SyncStage.answered.inj heq) ▸ he
    case isFalse => exact h

def MessageRouted : RuntimeMessage → Prop
  | .directoryRegister entry => EntryRouted entry
  | .directorySyncResponse _ entries => ∀ e ∈ entries, EntryRouted e
  | _ => True

theorem OutgoingRouted.message (h : OutgoingRouted o) : MessageRouted o.message := by
  obtain ⟨destination, m⟩ := o
  cases m with
  | directoryRegister entry => exact h.1
  | directorySyncResponse requestId entries => exact h
  | _ => exact trivial

theorem receive_routed (h : NodeRouted node s) (source : NodeAddress) {m : RuntimeMessage}
    (hm : MessageRouted m) : NodeRouted node (s.receive source m).1 := by
  cases m with
  | directoryRegister entry =>
    exact h.ofDirectory rfl (Directory.applyRemoteEntry_respects h.directory (hm.routed node))
  | directoryUnregister a =>
    exact h.ofDirectory rfl (Directory.removeRemoteEntry_respects h.directory a)
  | directorySyncRequest requestId => exact h
  | directorySyncResponse requestId entries => exact answerDirectorySync_routed h hm
  | remoteSend a m => exact enqueueMessage_routed h a m

theorem handle_routed
    (h : NodeRouted node s) (hm : ∀ source m, e = .receive source m → MessageRouted m)
    (ht : s.handle e = some (t, out)) : NodeRouted node t := by
  cases e with
  | spawn id =>
    cases ht
    exact spawn_routed h id
  | registered a =>
    simp only [handle] at ht
    split at ht
    · cases ht
      exact { h with registering := fun b hb => h.registering b (mem_of_mem_erase hb) }
    · cases ht
  | stopActor a =>
    cases ht
    exact stopActor_routed h a
  | unregistered a =>
    simp only [handle] at ht
    split at ht
    · cases ht
      exact { h with }
    · cases ht
  | receive source m =>
    obtain rfl : (s.receive source m).1 = t := congrArg Prod.fst (some.inj ht)
    exact receive_routed h source (hm source m rfl)
  | transportConnected n =>
    cases ht
    exact ensureRemoteDirectoryReady_routed h n false
  | transportDisconnected n =>
    simp only [handle] at ht
    split at ht
    case isTrue => cases ht
    case isFalse hn =>
      cases ht
      exact handleTransportDisconnected_routed h hn
  | disconnectedEntries =>
    simp only [handle] at ht
    split at ht
    case h_1 => cases ht
    case h_2 addresses rest hd =>
      cases ht
      have hrest : NodeRouted node { s with disconnecting := rest } :=
        { h with
          disconnecting := fun l hl => h.disconnecting l (hd ▸ mem_cons_of_mem _ hl) }
      exact removeRemoteDirectoryEntries_routed hrest addresses
  | join n =>
    simp only [handle] at ht
    split at ht
    case isTrue => cases ht
    case isFalse =>
      cases ht
      exact ensureRemoteDirectoryReady_routed h n false
  | leave n =>
    cases ht
    exact h.ofReadiness h.answered
  | lookup a =>
    cases ht
    exact lookup_routed h a
  | directoryLookup a =>
    cases ht
    exact directoryLookup_routed h a
  | requestDirectorySync token | failDirectorySync token message =>
    obtain ⟨sync, hsync, hs⟩ := bind_eq_some_iff.mp ht
    split at hs
    · cases hs
      exact setStage_routed h fun entries heq => by cases heq
    · cases hs
  | settleDirectorySync token =>
    obtain ⟨sync, hsync, hs⟩ := bind_eq_some_iff.mp ht
    obtain ⟨t', hsettle, hpair⟩ := map_eq_some_iff.mp hs
    cases hpair
    exact settleDirectorySync_routed h hsync hsettle
  | enqueueMessage a m =>
    obtain rfl : (s.enqueueMessage a m).1 = t := congrArg Prod.fst (some.inj ht)
    exact enqueueMessage_routed h a m
  | cleanupExpiredEntries =>
    cases ht
    exact h.ofDirectory rfl (Directory.cleanupExpiredEntries_respects h.directory s.now)
  | advance ms | peerIdentity n identity =>
    cases ht
    exact { h with }
  | peerConnected n =>
    simp only [handle] at ht
    split at ht
    case isTrue => cases ht
    case isFalse hn =>
      cases ht
      have hconnected : node ∉ s.connected.insert n := by
        rw [mem_insert_iff, not_or]
        exact ⟨fun he => hn (he ▸ h.address.symm), h.connected⟩
      exact { h with connected := hconnected }
  | peerDisconnected n =>
    cases ht
    exact { h with connected := fun hmem => h.connected (mem_filter.mp hmem).1 }

theorem mem_toPeers {m : RuntimeMessage} (ho : o ∈ s.toPeers a m) :
    ActorAddress.isLocalAddress a = some false ∧ o.destination ∈ s.connected ∧ o.message = m := by
  unfold toPeers at ho
  split at ho
  case isTrue hlocal =>
    obtain ⟨n, hn, rfl⟩ := mem_map.mp ho
    exact ⟨hlocal, hn, rfl⟩
  case isFalse => cases ho

theorem broadcastDirectoryRegister_routed (h : NodeRouted node s)
    (ha : a ∈ s.registering) (ho : o ∈ s.broadcastDirectoryRegister a) : OutgoingRouted o := by
  obtain ⟨hlocal, hconnected, hm⟩ := mem_toPeers ho
  obtain ⟨n, hn⟩ := onNode_of_isLocal hlocal
  obtain rfl := hn.eq_of_minted (h.registering a ha)
  obtain ⟨destination, message⟩ := o
  obtain rfl := hm
  refine ⟨⟨?_, by simp [advertised]⟩, ?_⟩
  · simpa only [advertised, h.address] using hn
  · intro heq
    have hself : destination = n := heq.trans h.address
    exact h.connected (hself ▸ hconnected)

theorem exportEntries_routed (h : NodeRouted node s) {now : Nat} {e : RuntimeDirectoryEntry}
    (he : e ∈ s.directory.exportEntries now) : EntryRouted e := by
  obtain ⟨hlocal, entry, hentry, hlocation, httl⟩ := Directory.mem_exportEntries he
  obtain ⟨n, hn⟩ := onNode_of_isLocal hlocal
  have hrouted := h.directory.registry e.address entry hentry
  refine ⟨?_, ?_⟩
  · rw [hlocation, hrouted.onNode hn]
    exact hn
  · rw [httl, h.config]
    split
    case isTrue => simp
    case isFalse hne => exact (hrouted.resolve_left fun hl => hne hl.1).2

theorem lookupAnswer_routed (h : NodeRouted node s) {location : NodeAddress}
    (ha : OnNode a n) (hl : s.lookupAnswer a = some location) : location = n := by
  obtain ⟨ttl, hrouted⟩ := Directory.lookup_answer_respects h.directory hl
  exact hrouted.onNode ha

theorem mem_remoteSends (h : NodeRouted node s) (ha : OnNode a n) (ho : o ∈ s.remoteSends a m) :
    n ≠ node ∧ o = ⟨n, .remoteSend a m⟩ := by
  unfold remoteSends at ho
  split at ho
  case h_1 => cases ho
  case h_2 location hl =>
    obtain rfl := lookupAnswer_routed h ha hl
    split at ho
    case isTrue hne => exact ⟨h.address ▸ hne.1, mem_singleton.mp ho⟩
    case isFalse => cases ho

theorem enqueueMessage_out (h : NodeRouted node s)
    (ho : o ∈ (s.enqueueMessage a m).2) : ∃ n, OnNode a n ∧ n ≠ node ∧ o = ⟨n, .remoteSend a m⟩ := by
  unfold DirectoryNode.enqueueMessage at ho
  split at ho
  case isTrue => cases ho
  case isFalse =>
    split at ho
    case isTrue hlocal =>
      obtain ⟨n, hn⟩ := onNode_of_isLocal hlocal
      exact ⟨n, hn, mem_remoteSends h hn ho⟩
    case isFalse => cases ho

theorem enqueueMessage_out_length (s : DirectoryNode) (a : ActorAddress) (m : Nat) :
    (s.enqueueMessage a m).2.length ≤ 1 := by
  unfold DirectoryNode.enqueueMessage
  split
  · simp
  · split
    · unfold remoteSends
      split
      · simp
      · split <;> simp
    · simp

inductive Emits (s : DirectoryNode) (e : Event) : List Outgoing → Prop
  | nothing : Emits s e []
  | registered (a : ActorAddress) : a ∈ s.registering → Emits s e (s.broadcastDirectoryRegister a)
  | unregistered (a : ActorAddress) : Emits s e (s.broadcastDirectoryUnregister a)
  | syncRequest (n : NodeAddress) (token : Nat) : Emits s e [⟨n, .directorySyncRequest token⟩]
  | syncResponse (n : NodeAddress) (requestId : Nat) :
      Emits s e [⟨n, .directorySyncResponse requestId (s.directory.exportEntries s.now)⟩]
  | forwarded (a : ActorAddress) (m : Nat) :
      e = .enqueueMessage a m ∨ (∃ source, e = .receive source (.remoteSend a m)) →
      Emits s e (s.enqueueMessage a m).2

theorem handle_emits (ht : s.handle e = some (t, out)) : Emits s e out := by
  cases e with
  | registered a =>
    simp only [handle] at ht
    split at ht
    case isTrue ha =>
      cases ht
      exact .registered a ha
    case isFalse => cases ht
  | unregistered a =>
    simp only [handle] at ht
    split at ht
    case isTrue =>
      cases ht
      exact .unregistered a
    case isFalse => cases ht
  | receive source m =>
    obtain rfl : (s.receive source m).2 = out := congrArg Prod.snd (some.inj ht)
    cases m with
    | directorySyncRequest requestId => exact .syncResponse source requestId
    | remoteSend a m => exact .forwarded a m (.inr ⟨source, rfl⟩)
    | _ => exact .nothing
  | transportDisconnected n | disconnectedEntries | join n | peerConnected n =>
    simp only [handle] at ht
    split at ht
    · cases ht
    · cases ht
      exact .nothing
  | requestDirectorySync token =>
    obtain ⟨sync, -, hs⟩ := bind_eq_some_iff.mp ht
    split at hs
    case isTrue =>
      cases hs
      split
      · exact .syncRequest sync.node token
      · exact .nothing
    case isFalse => cases hs
  | failDirectorySync token message =>
    obtain ⟨sync, -, hs⟩ := bind_eq_some_iff.mp ht
    split at hs
    · cases hs
      exact .nothing
    · cases hs
  | settleDirectorySync token =>
    obtain ⟨sync, -, hs⟩ := bind_eq_some_iff.mp ht
    obtain ⟨t', -, hpair⟩ := map_eq_some_iff.mp hs
    cases hpair
    exact .nothing
  | enqueueMessage a m =>
    obtain rfl : (s.enqueueMessage a m).2 = out := congrArg Prod.snd (some.inj ht)
    exact .forwarded a m (.inl rfl)
  | _ =>
    cases ht
    exact .nothing

theorem emits_routed (h : NodeRouted node s)
    (he : Emits s e out) : ∀ o ∈ out, OutgoingRouted o := by
  intro o ho
  cases he with
  | nothing => cases ho
  | registered a ha => exact broadcastDirectoryRegister_routed h ha ho
  | unregistered a =>
    obtain ⟨destination, message⟩ := o
    obtain ⟨-, -, rfl⟩ := mem_toPeers ho
    exact trivial
  | syncRequest n token =>
    obtain rfl := mem_singleton.mp ho
    exact trivial
  | syncResponse n requestId =>
    obtain rfl := mem_singleton.mp ho
    exact fun e he => exportEntries_routed h he
  | forwarded a m _ =>
    obtain ⟨n, hn, -, rfl⟩ := enqueueMessage_out h ho
    exact hn

def sends (out : List Outgoing) : List Nat :=
  out.filterMap fun o =>
    match o.message with
    | .remoteSend _ m => some m
    | _ => none

theorem mem_sends : m ∈ sends out ↔ ∃ o ∈ out, ∃ a, o.message = .remoteSend a m := by
  rw [sends, mem_filterMap]
  refine exists_congr fun o => and_congr_right fun _ => ?_
  cases o.message <;> simp

theorem emits_sends (h : NodeRouted node s) (he : Emits s e out) (hm : m ∈ sends out)
    (harrived : ∀ source a m, e = .receive source (.remoteSend a m) → OnNode a node) :
    sends out = [m] ∧ ∃ a, e = .enqueueMessage a m := by
  obtain ⟨o, ho, a, hmessage⟩ := mem_sends.mp hm
  cases he with
  | nothing => cases ho
  | registered a' _ | unregistered a' => cases hmessage.symm.trans (mem_toPeers ho).2.2
  | syncRequest n token | syncResponse n requestId =>
    obtain rfl := mem_singleton.mp ho
    cases hmessage
  | forwarded a' m' hevent =>
    obtain ⟨n, hn, hne, rfl⟩ := enqueueMessage_out h ho
    obtain ⟨rfl, rfl⟩ := RuntimeMessage.remoteSend.inj hmessage
    obtain rfl | ⟨source, rfl⟩ := hevent
    · refine ⟨?_, a', rfl⟩
      obtain ⟨o', hout⟩ : ∃ o', (s.enqueueMessage a' m').2 = [o'] :=
        length_eq_one_iff.mp
          (le_antisymm (enqueueMessage_out_length s a' m') (length_pos_of_mem ho))
      rw [hout] at ho ⊢
      rw [← mem_singleton.mp ho]
      rfl
    · exact absurd (hn.unique (harrived source a' m' rfl)) hne

end Node

end ActorWeb.DirectoryRouting
