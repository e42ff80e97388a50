import ActorWeb.Channel
import ActorWeb.ProjectionWatcher
import ActorWeb.Transition

namespace ActorWeb

structure RequestId where
  number : Nat
  kind : FetchKind
deriving DecidableEq

inductive ProjectionRequest
  | snapshotSubscribe
  | snapshotUnsubscribe
  | eventSubscribe
  | eventUnsubscribe
  | snapshotFetch (requestId : RequestId)

inductive ProjectionFrame (Value : Type)
  | snapshotUpdate (payload : SnapshotProjection Value)
  | eventUpdate (sequence : Nat)
  | snapshotFetchResponse (requestId : RequestId) (payload : SnapshotProjection Value)

inductive ReplayStage
  | sentSnapshotSubscribe | sentEventSubscribe

/-- A node that watches the actor, and its link to the publisher node. `attended`
records that the handling of the open connection has come to its replay; `requests` are
registered with the correlation manager; `answered` and `failing` are calls whose
continuation has still to run. -/
structure WatcherNode (Value : Type) where
  watcher : Option (RemoteProjectionWatcher Value)
  (connected attended : Bool)
  replays : List ReplayStage
  requests : List RequestId
  answered : List (FetchKind × SnapshotProjection Value)
  failing : List FetchKind
  nextRequest : Nat
  toPublisher : Channel ProjectionRequest
  toWatcher : Channel (ProjectionFrame Value)

namespace WatcherNode

variable {Value : Type}

def start : WatcherNode Value :=
  { watcher := none
    connected := false
    attended := false
    replays := []
    requests := []
    answered := []
    failing := []
    nextRequest := 0
    toPublisher := Channel.empty
    toWatcher := Channel.empty }

variable (n : WatcherNode Value)

def getOrCreateRemoteProjectionWatcher : RemoteProjectionWatcher Value :=
  n.watcher.getD (RemoteProjectionWatcher.createRemoteProjectionWatcher n.connected)

variable (w : RemoteProjectionWatcher Value)

def setWatcher : WatcherNode Value :=
  { n with watcher := some w }

/-- `sendTransportMessage` to the publisher node; it rejects when the node is not connected. -/
def sendTransportMessage (request : ProjectionRequest) : WatcherNode Value :=
  if n.connected then { n with toPublisher := n.toPublisher.send request } else n

def deliver (frame : ProjectionFrame Value) : WatcherNode Value :=
  if n.connected then { n with toWatcher := n.toWatcher.send frame } else n

def subscribeSnapshots : WatcherNode Value :=
  let w := n.getOrCreateRemoteProjectionWatcher
  if w.snapshotSubscribed then n.setWatcher w
  else
    (n.setWatcher { w with snapshotSubscribed := true }).sendTransportMessage .snapshotSubscribe

def unsubscribeSnapshots : WatcherNode Value :=
  let w := n.getOrCreateRemoteProjectionWatcher
  if w.snapshotSubscribed then
    (n.setWatcher { w with snapshotSubscribed := false }).sendTransportMessage .snapshotUnsubscribe
  else n

def subscribeEvents : WatcherNode Value :=
  let w := n.getOrCreateRemoteProjectionWatcher
  if w.eventSubscribed then n.setWatcher w
  else (n.setWatcher { w with eventSubscribed := true }).sendTransportMessage .eventSubscribe

def unsubscribeEvents : WatcherNode Value :=
  let w := n.getOrCreateRemoteProjectionWatcher
  if w.eventSubscribed then
    (n.setWatcher { w with eventSubscribed := false }).sendTransportMessage .eventUnsubscribe
  else n

/-- `requestRemoteSnapshotProjection`, whose caller fails when the send rejects. -/
def requestRemoteSnapshotProjection (kind : FetchKind) : WatcherNode Value :=
  if n.connected then
    { n with
      requests := n.requests ++ [⟨n.nextRequest, kind⟩]
      nextRequest := n.nextRequest + 1
      toPublisher := n.toPublisher.send (.snapshotFetch ⟨n.nextRequest, kind⟩) }
  else { n with failing := n.failing ++ [kind] }

def primeRemoteProjectionWatcher : WatcherNode Value :=
  (n.setWatcher n.getOrCreateRemoteProjectionWatcher).requestRemoteSnapshotProjection .prime

def replaySend (request : ProjectionRequest) (stage : ReplayStage) : WatcherNode Value :=
  if n.connected then
    { n with toPublisher := n.toPublisher.send request, replays := n.replays ++ [stage] }
  else { n with failing := n.failing ++ [.replay] }

def replayEvents : WatcherNode Value :=
  if w.eventSubscribed then n.replaySend .eventSubscribe .sentEventSubscribe
  else n.requestRemoteSnapshotProjection .replay

/-- `replayRemoteProjectionWatcher` up to its first await. -/
def replayRemoteProjectionWatcher : WatcherNode Value :=
  let replaying := { w with state := .replaying }
  let n := n.setWatcher replaying
  if w.snapshotSubscribed then n.replaySend .snapshotSubscribe .sentSnapshotSubscribe
  else n.replayEvents replaying

def advanceReplay (i : Nat) : Option (WatcherNode Value) :=
  n.replays[i]?.map fun stage =>
    let n := { n with replays := n.replays.eraseIdx i }
    match stage with
    | .sentSnapshotSubscribe => n.replayEvents n.getOrCreateRemoteProjectionWatcher
    | .sentEventSubscribe => n.requestRemoteSnapshotProjection .replay

def failReplay (i : Nat) : Option (WatcherNode Value) :=
  if i < n.replays.length then
    some { n with replays := n.replays.eraseIdx i, failing := n.failing ++ [.replay] }
  else none

def failRequest (requestId : RequestId) : Option (WatcherNode Value) :=
  if requestId ∈ n.requests then
    some { n with
      requests := n.requests.filter fun r => r ≠ requestId
      failing := n.failing ++ [requestId.kind] }
  else none

/-- The continuation of the call that was answered first: all of them await the same
chain of promises. -/
def resume : Option (WatcherNode Value) :=
  match n.answered with
  | [] => none
  | (kind, projection) :: answered =>
    some ({ n with answered := answered }.setWatcher
      (n.getOrCreateRemoteProjectionWatcher.fetched kind projection))

def resumeFailed (i : Nat) : Option (WatcherNode Value) :=
  n.failing[i]?.map fun kind =>
    { n with failing := n.failing.eraseIdx i }.setWatcher
      (n.getOrCreateRemoteProjectionWatcher.fetchFailed kind)

def attend : WatcherNode Value :=
  let n := { n with attended := n.connected }
  match n.watcher with
  | none => n
  | some w => n.replayRemoteProjectionWatcher w

def handle : Option (ProjectionFrame Value) → WatcherNode Value
  | some (.snapshotUpdate payload) =>
    n.setWatcher (n.getOrCreateRemoteProjectionWatcher.handleRemoteSnapshotProjection payload)
  | some (.eventUpdate sequence) =>
    n.setWatcher (n.getOrCreateRemoteProjectionWatcher.handleRemoteEventProjection sequence)
  | some (.snapshotFetchResponse requestId payload) =>
    if requestId ∈ n.requests then
      { n with
        requests := n.requests.filter fun r => r ≠ requestId
        answered := n.answered ++ [(requestId.kind, payload)] }
    else n
  | none => { n with watcher := n.watcher.map fun w => { w with state := .disconnected } }

def receive : Option (WatcherNode Value) :=
  n.toWatcher.receive.map fun (input, toWatcher) => { n with toWatcher := toWatcher }.handle input

def connect : Option (WatcherNode Value) :=
  if n.connected then none else some { n with connected := true, attended := false }

/-- The connection ends; of what is on its way, `k` requests and `l` frames still arrive. -/
def disconnect (k l : Nat) : Option (WatcherNode Value) :=
  if n.connected then
    some { n with
      connected := false
      attended := false
      toPublisher := n.toPublisher.close k
      toWatcher := n.toWatcher.close l }
  else none

end WatcherNode

/-- The publisher node of an actor and the nodes that watch the actor. `instances` holds
the snapshot of every instance the actor has had, `current` is the one that
`actorInstances` maps the path to, `cached` is the entry of `actorSnapshots`;
`sequence` is 0 where `actorProjectionState` has no entry. `handlers` are the running
handler calls by instance, `stopping` counts the calls of `stopActor` that await their
publication. -/
structure ProjectionSystem (Node Value : Type) where
  instances : List (Stamped Value)
  current : Option Nat
  cached : Stamped Value
  sequence : Nat
  (snapshotNodes eventNodes : List Node)
  handlers : List Nat
  (stopping clock : Nat)
  nodes : Node → WatcherNode Value

namespace ProjectionSystem

open Function

variable {Node Value : Type}

def start (snapshot : ActorSnapshot Value) : ProjectionSystem Node Value :=
  { instances := [⟨snapshot, 0⟩]
    current := some 0
    cached := ⟨snapshot, 0⟩
    sequence := 0
    snapshotNodes := []
    eventNodes := []
    handlers := []
    stopping := 0
    clock := 0
    nodes := fun _ => WatcherNode.start }

def localSnapshot (s : ProjectionSystem Node Value) : Stamped Value :=
  (s.current.bind fun k => s.instances[k]?).getD s.cached

def getLocalActorSnapshot (s : ProjectionSystem Node Value) : ProjectionSystem Node Value :=
  { s with cached := s.localSnapshot }

def createSnapshotProjection (s : ProjectionSystem Node Value) : SnapshotProjection Value :=
  ⟨s.sequence, s.localSnapshot⟩

def stoppedSnapshot (s : ProjectionSystem Node Value) : Stamped Value :=
  ⟨createFallbackSnapshot .stopped (some s.cached.snapshot), s.clock + 1⟩

variable [DecidableEq Node] (s : ProjectionSystem Node Value)

variable (receivers : List Node)

def sendToAll (frame : ProjectionFrame Value) :
    ProjectionSystem Node Value :=
  { s with nodes := fun n => if n ∈ receivers then (s.nodes n).deliver frame else s.nodes n }

def publishRemoteSnapshotProjection (shown : Stamped Value) : ProjectionSystem Node Value :=
  if s.snapshotNodes.isEmpty then s
  else
    { s with sequence := s.sequence + 1 }.sendToAll s.snapshotNodes
      (.snapshotUpdate ⟨s.sequence + 1, shown⟩)

def publishRemoteActorEvent : ProjectionSystem Node Value :=
  if s.eventNodes.isEmpty then s
  else
    { s with sequence := s.sequence + 1 }.sendToAll s.eventNodes (.eventUpdate (s.sequence + 1))

def addNode (n : Node) : List Node :=
  if n ∈ receivers then receivers else receivers ++ [n]

def removeNode (n : Node) : List Node :=
  receivers.filter fun m => m ≠ n

/-- The messages about projections in `handleRuntimeProtocolMessage`, and the end of a
connection in `handleTransportDisconnected`. -/
def handle (n : Node) : Option ProjectionRequest → ProjectionSystem Node Value
  | some .snapshotSubscribe =>
    { s.getLocalActorSnapshot with snapshotNodes := addNode s.snapshotNodes n }.sendToAll [n]
      (.snapshotUpdate s.createSnapshotProjection)
  | some .snapshotUnsubscribe => { s with snapshotNodes := removeNode s.snapshotNodes n }
  | some .eventSubscribe => { s with eventNodes := addNode s.eventNodes n }
  | some .eventUnsubscribe => { s with eventNodes := removeNode s.eventNodes n }
  | some (.snapshotFetch requestId) =>
    s.getLocalActorSnapshot.sendToAll [n]
      (.snapshotFetchResponse requestId s.createSnapshotProjection)
  | none =>
    { s with
      snapshotNodes := removeNode s.snapshotNodes n
      eventNodes := removeNode s.eventNodes n }

def setNode (n : Node) (node : WatcherNode Value) : ProjectionSystem Node Value :=
  { s with nodes := update s.nodes n node }

def receive (n : Node) : Option (ProjectionSystem Node Value) :=
  (s.nodes n).toPublisher.receive.map fun (input, toPublisher) =>
    (s.setNode n { s.nodes n with toPublisher }).handle n input

def handled [DecidableEq Value] (i : Nat) : Option (ProjectionSystem Node Value) :=
  (s.handlers[i]?.bind fun k => s.instances[k]?).map fun latest =>
    let done := { s with handlers := s.handlers.eraseIdx i, cached := latest }
    if s.cached.snapshot = latest.snapshot then done
    else done.publishRemoteSnapshotProjection latest

/-- `stopActor` from the removal of the instance to the await of its publication. -/
def stop : ProjectionSystem Node Value :=
  { s with
    current := none
    cached := s.stoppedSnapshot
    clock := s.clock + 1
    stopping := s.stopping + 1 }.publishRemoteSnapshotProjection s.stoppedSnapshot

/-- The rest of `stopActor`. -/
def stopped : Option (ProjectionSystem Node Value) :=
  match s.stopping with
  | 0 => none
  | stopping + 1 =>
    some { s with stopping, sequence := 0, snapshotNodes := [], eventNodes := [] }

def spawn (snapshot : ActorSnapshot Value) : ProjectionSystem Node Value :=
  { s with
    instances := s.instances ++ [⟨snapshot, s.clock + 1⟩]
    current := some s.instances.length
    cached := ⟨snapshot, s.clock + 1⟩
    sequence := 0
    clock := s.clock + 1 }

def change (k : Nat) (snapshot : ActorSnapshot Value) : ProjectionSystem Node Value :=
  { s with instances := s.instances.set k ⟨snapshot, s.clock + 1⟩, clock := s.clock + 1 }

end ProjectionSystem

inductive NodeAction
  | subscribeSnapshots
  | unsubscribeSnapshots
  | subscribeEvents
  | unsubscribeEvents
  | prime
  | attend
  | advanceReplay (i : Nat)
  | failReplay (i : Nat)
  | failRequest (requestId : RequestId)
  | resume
  | resumeFailed (i : Nat)
  | receive
  | connect
  | disconnect (k l : Nat)

namespace WatcherNode

def step {Value : Type} (n : WatcherNode Value) : NodeAction → Option (WatcherNode Value)
  | .subscribeSnapshots => some n.subscribeSnapshots
  | .unsubscribeSnapshots => some n.unsubscribeSnapshots
  | .subscribeEvents => some n.subscribeEvents
  | .unsubscribeEvents => some n.unsubscribeEvents
  | .prime => some n.primeRemoteProjectionWatcher
  | .attend => some n.attend
  | .advanceReplay i => n.advanceReplay i
  | .failReplay i => n.failReplay i
  | .failRequest requestId => n.failRequest requestId
  | .resume => n.resume
  | .resumeFailed i => n.resumeFailed i
  | .receive => n.receive
  | .connect => n.connect
  | .disconnect k l => n.disconnect k l

end WatcherNode

namespace ProjectionSystem

variable {Node Value : Type}

/-- A `change` is one of the snapshot of an instance, `deliver` the start of a handler on
the current instance, `receive` is done by the publisher node. -/
inductive Action (Node Value : Type)
  | spawn (snapshot : ActorSnapshot Value)
  | deliver
  | change (k : Nat) (snapshot : ActorSnapshot Value)
  | handled (i : Nat)
  | threw (i : Nat)
  | emit
  | stop
  | stopped
  | receive (n : Node)
  | node (n : Node) (a : NodeAction)

def step [DecidableEq Node] [DecidableEq Value] (s : ProjectionSystem Node Value) :
    Action Node Value → Option (ProjectionSystem Node Value)
  | .spawn snapshot => some (s.spawn snapshot)
  | .deliver => s.current.map fun k => { s with handlers := s.handlers ++ [k] }
  | .change k snapshot => some (s.change k snapshot)
  | .handled i => s.handled i
  | .threw i =>
    if i < s.handlers.length then some { s with handlers := s.handlers.eraseIdx i } else none
  | .emit => some s.publishRemoteActorEvent
  | .stop => some s.stop
  | .stopped => s.stopped
  | .receive n => s.receive n
  | .node n a => ((s.nodes n).step a).map fun node => s.setNode n node

end ProjectionSystem

end ActorWeb
