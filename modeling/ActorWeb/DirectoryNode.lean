import ActorWeb.DirectoryReadiness

namespace ActorWeb

inductive RuntimeMessage
  | directoryRegister (entry : RuntimeDirectoryEntry)
  | directoryUnregister (address : ActorAddress)
  | directorySyncRequest (requestId : Nat)
  | directorySyncResponse (requestId : Nat) (entries : List RuntimeDirectoryEntry)
  | remoteSend (address : ActorAddress) (message : Nat)

structure Outgoing where
  destination : NodeAddress
  message : RuntimeMessage

/-- The part of an actor system that keeps the directory: its actors, its
directory, what its transport tells about the peers, and the calls that are
suspended (`spawn` and `stopActor` before their broadcast, the handler of a
disconnect before it removes entries). -/
structure DirectoryNode where
  nodeAddress : NodeAddress
  now : Nat
  actors : OrderedMap ActorAddress Unit
  directory : Directory
  connected : List NodeAddress
  identities : OrderedMap NodeAddress RemoteConnectionIdentity
  readiness : Readiness
  (registering unregistering : List ActorAddress)
  disconnecting : List (List ActorAddress)

namespace DirectoryNode

def start (config : DirectoryConfig) (now : Nat) : DirectoryNode :=
  { nodeAddress := config.nodeAddress
    now
    actors := OrderedMap.empty
    directory := Directory.create config
    connected := []
    identities := OrderedMap.empty
    readiness := Readiness.empty
    registering := []
    unregistering := []
    disconnecting := [] }

variable (s : DirectoryNode)

def spawnAddress (id : List Char) : Except (List Char) ActorAddress :=
  if id = ActorAddress.guardianId then .ok ActorAddress.guardianAddress
  else ActorAddress.createActorAddress id s.nodeAddress

/-- `spawn` up to the await of `directory.register`. -/
def spawn (id : List Char) : DirectoryNode :=
  match s.spawnAddress id with
  | .error _ => s
  | .ok address =>
    { s with
      actors := s.actors.set address ()
      directory := s.directory.register s.now address s.nodeAddress
      registering := s.registering ++ [address] }

variable (address : ActorAddress)

/-- `stopActor` from the removal of the actor to the await of `directory.unregister`. -/
def stopActor : DirectoryNode :=
  { s with
    actors := s.actors.delete address
    directory := s.directory.unregister address
    unregistering := s.unregistering ++ [address] }

/-- A `local` address is never advertised, and one that does not parse throws. -/
def toPeers (message : RuntimeMessage) :
    List Outgoing :=
  if ActorAddress.isLocalAddress address = some false then
    s.connected.map fun node => ⟨node, message⟩
  else []

def advertised : RuntimeDirectoryEntry :=
  { address, location := s.nodeAddress, timestamp := s.now
    ttl := .time (s.now + s.directory.config.cacheTtl) }

def broadcastDirectoryRegister : List Outgoing :=
  s.toPeers address (.directoryRegister (s.advertised address))

def broadcastDirectoryUnregister : List Outgoing :=
  s.toPeers address (.directoryUnregister address)

variable (node : NodeAddress)

def getRemoteConnectionKey : ConnectionKey :=
  s.identities.get node

def ensureRemoteDirectoryReady (refreshIfReady : Bool) :
    DirectoryNode :=
  { s with
    readiness := s.readiness.ensure node (s.getRemoteConnectionKey node) refreshIfReady }

def isCurrent (token : Nat) (sync : DirectorySync) : Bool :=
  s.readiness.holdsToken sync.node token &&
    s.getRemoteConnectionKey sync.node = sync.connectionKey

def settleDirectorySync (token : Nat) (sync : DirectorySync) :
    Option DirectoryNode :=
  match sync.stage with
  | .scheduled => none
  | .requested => none
  | .answered entries =>
    if s.isCurrent token sync then
      some { s with
        directory := entries.foldl Directory.applyRemoteEntry s.directory
        readiness := (s.readiness.finish token).succeed token sync }
    else some { s with readiness := (s.readiness.finish token).withdraw token sync }
  | .failed message =>
    if s.isCurrent token sync then
      some { s with readiness := (s.readiness.finish token).degrade sync message }
    else some { s with readiness := (s.readiness.finish token).withdraw token sync }

/-- `handleTransportDisconnected` up to the await of `getAll`. -/
def handleTransportDisconnected : DirectoryNode :=
  { s with
    readiness := s.readiness.forget node
    disconnecting := s.disconnecting ++
      [((s.directory.getAll s.now).filter fun e => e.2 = node).map Prod.fst] }

def removeRemoteDirectoryEntries (addresses : List ActorAddress) :
    DirectoryNode :=
  { s with directory := addresses.foldl Directory.removeRemoteEntry s.directory }

def directoryLookup : DirectoryNode :=
  { s with directory := (s.directory.lookup s.now address).1 }

def lookupAnswer : Option NodeAddress :=
  (s.directory.lookup s.now address).2

/-- The node of an unresolved address, when it is connected, is asked for its directory. -/
def lookup : DirectoryNode :=
  match s.lookupAnswer address, ActorAddress.getAddressNode address with
  | none, some node =>
    if node ∈ s.connected then (s.directoryLookup address).ensureRemoteDirectoryReady node true
    else s.directoryLookup address
  | _, _ => s.directoryLookup address

def includesCallback : Bool :=
  address.tails.any fun t => ('/' :: ActorAddress.callbackSegment).isPrefixOf t

/-- A callback address and a `local` one stay on the node; what the transport or
the directory does not know becomes a dead letter. -/
def remoteSends (message : Nat) : List Outgoing :=
  match s.lookupAnswer address with
  | none => []
  | some location =>
    if location ≠ s.nodeAddress ∧ location ∈ s.connected then
      [⟨location, .remoteSend address message⟩]
    else []

def enqueueMessage (message : Nat) :
    DirectoryNode × List Outgoing :=
  if includesCallback address then (s, [])
  else if ActorAddress.isLocalAddress address = some false then
    (s.directoryLookup address, s.remoteSends address message)
  else (s, [])

def answerDirectorySync (requestId : Nat)
    (entries : List RuntimeDirectoryEntry) : DirectoryNode :=
  match s.readiness.syncs.get requestId with
  | none => s
  | some sync =>
    if sync.stage = .requested then
      { s with readiness := s.readiness.setStage requestId sync (.answered entries) }
    else s

def receive (source : NodeAddress) :
    RuntimeMessage → DirectoryNode × List Outgoing
  | .directoryRegister entry =>
    ({ s with directory := s.directory.applyRemoteEntry entry }, [])
  | .directoryUnregister address =>
    ({ s with directory := s.directory.removeRemoteEntry address }, [])
  | .directorySyncRequest requestId =>
    (s, [⟨source, .directorySyncResponse requestId (s.directory.exportEntries s.now)⟩])
  | .directorySyncResponse requestId entries => (s.answerDirectorySync requestId entries, [])
  | .remoteSend address message => s.enqueueMessage address message

inductive Event
  | spawn (id : List Char)
  | registered (address : ActorAddress)
  | stopActor (address : ActorAddress)
  | unregistered (address : ActorAddress)
  | receive (source : NodeAddress) (message : RuntimeMessage)
  | transportConnected (node : NodeAddress)
  | transportDisconnected (node : NodeAddress)
  | disconnectedEntries
  | join (node : NodeAddress)
  | leave (node : NodeAddress)
  | lookup (address : ActorAddress)
  | directoryLookup (address : ActorAddress)
  | requestDirectorySync (token : Nat)
  | failDirectorySync (token : Nat) (message : List Char)
  | settleDirectorySync (token : Nat)
  | enqueueMessage (address : ActorAddress) (message : Nat)
  | cleanupExpiredEntries
  | advance (ms : Nat)
  | peerConnected (node : NodeAddress)
  | peerDisconnected (node : NodeAddress)
  | peerIdentity (node : NodeAddress) (identity : Option RemoteConnectionIdentity)

def handle : Event → Option (DirectoryNode × List Outgoing)
  | .spawn id => some (s.spawn id, [])
  | .registered a =>
    if a ∈ s.registering then
      some ({ s with registering := s.registering.erase a }, s.broadcastDirectoryRegister a)
    else none
  | .stopActor a => some (s.stopActor a, [])
  | .unregistered a =>
    if a ∈ s.unregistering then
      some ({ s with unregistering := s.unregistering.erase a },
        s.broadcastDirectoryUnregister a)
    else none
  | .receive source m => some (s.receive source m)
  | .transportConnected n => some (s.ensureRemoteDirectoryReady n false, [])
  | .transportDisconnected n =>
    if n = s.nodeAddress then none else some (s.handleTransportDisconnected n, [])
  | .disconnectedEntries =>
    match s.disconnecting with
    | [] => none
    | addresses :: rest =>
      some (removeRemoteDirectoryEntries { s with disconnecting := rest } addresses, [])
  | .join n =>
    if n = s.nodeAddress then none else some (s.ensureRemoteDirectoryReady n false, [])
  | .leave n => some ({ s with readiness := s.readiness.forget n }, [])
  | .lookup a => some (s.lookup a, [])
  | .directoryLookup a => some (s.directoryLookup a, [])
  | .requestDirectorySync token =>
    (s.readiness.syncs.get token).bind fun sync =>
      if sync.stage = .scheduled then
        some ({ s with readiness := s.readiness.setStage token sync .requested },
          if sync.node ∈ s.connected then [⟨sync.node, .directorySyncRequest token⟩] else [])
      else none
  | .failDirectorySync token message =>
    (s.readiness.syncs.get token).bind fun sync =>
      if sync.stage = .requested then
        some ({ s with readiness := s.readiness.setStage token sync (.failed message) }, [])
      else none
  | .settleDirectorySync token =>
    (s.readiness.syncs.get token).bind fun sync =>
      (s.settleDirectorySync token sync).map fun t => (t, [])
  | .enqueueMessage a m => some (s.enqueueMessage a m)
  | .cleanupExpiredEntries =>
    some ({ s with directory := s.directory.cleanupExpiredEntries s.now }, [])
  | .advance ms => some ({ s with now := s.now + ms }, [])
  | .peerConnected n =>
    if n = s.nodeAddress then none
    else some ({ s with connected := s.connected.insert n }, [])
  | .peerDisconnected n => some ({ s with connected := s.connected.filter (· ≠ n) }, [])
  | .peerIdentity n identity =>
    some ({ s with identities := identity.elim (s.identities.delete n) (s.identities.set n) },
      [])

end DirectoryNode

end ActorWeb
