import ActorWeb.Leases
import ActorWeb.Transition

namespace ActorWeb.WebNode

/-- What a start of the node brings up. A subscription is one owned pair of the
topology, by its place in the wiring order. -/
inductive Resource
  | transport
  | system
  | actor (address : String)
  | subscription (pair : Nat)
  | gateway
  | discovery
deriving DecidableEq

abbrev Lease := Resource × Nat

/-- What `start` and `stop` read of the topology and of the node's options.
`actors` are the owned actors without parameters, `pairs` counts the owned
subscription pairs, `discovery` and `subscribes` say that there is a discovery
provider and that it has `subscribe`, `connects` that there are nodes to connect to. -/
structure NodeOptions where
  (startable listens : Bool)
  actors : List String
  pairs : Nat
  (gateway discovery subscribes connects registers : Bool)

def NodeOptions.watches (o : NodeOptions) : Bool := o.discovery && o.subscribes

/-- `serveNode` runs its own transport, and tells the discovery provider about it. -/
def serveNode (o : NodeOptions) : NodeOptions := { o with startable := true, registers := true }

def startActorWebNode (o : NodeOptions) : NodeOptions :=
  { o with gateway := false, registers := false }

/-- What a start awaits, in its order; `discover` is the one call that is not awaited. -/
inductive StartOp
  | startTransport
  | startSystem
  | spawn (address : String)
  | spawned
  | wire (pair : Nat)
  | wired
  | importServer
  | createServer
  | getPeers
  | connectPeer
  | discover
  | join
  | registerSelf

/-- What a stop, or the rollback of a start, awaits. `closeServer` and
`unsubscribe` are about what the stop took from the variables when it was called,
the others read the variables when it is their turn. -/
inductive ReleaseOp
  | closeServer (l : Lease)
  | unregisterSelf
  | unsubscribeDiscovery
  | closeGateway
  | teardownSubscriptions
  | teardown (l : Lease)
  | tornDown
  | stopSystem
  | stopTransport
  | unsubscribe (l : Lease)

/-- The locals of a start: what it awaits now, and whether that took effect when
it was begun, what comes after it, and the subscriptions wired so far. -/
structure Startup where
  awaiting : StartOp
  begun : Bool
  rest : List StartOp
  teardowns : List Lease
  (transportStarted systemStarted registeredSelf : Bool)

/-- The locals of a stop, or of a start that failed. `stopping` is set while the
call is the one that stops the actor system. -/
structure Shutdown where
  startFailed : Bool
  awaiting : ReleaseOp
  stopping : Bool
  rest : List ReleaseOp

/-- Whether what a start awaits can settle this way: a spawn that passed its checks
goes through, one that did not fails, an actor system that runs already is there at
once, and the bookkeeping between two loops has nothing to fail on. -/
def Startup.settles (c : Startup) (ok : Bool) : Bool :=
  match c.awaiting with
  | .spawn _ => c.begun == ok
  | .startSystem => c.begun || ok
  | .spawned | .wired => ok
  | _ => true

inductive Call
  | start (c : Startup)
  | release (c : Shutdown)

inductive Outcome
  | started
  | startFailed
  | stopped
deriving DecidableEq

/-- The variables of the node, with what its transport (`listenHandle`) and its
actor system (`systemRunning`, `transportSubscription`, `actors`) keep. -/
structure Node where
  running : Bool
  (gatewayServer unsubscribeDiscovery : Option Lease)
  subscriptionTeardowns : List Lease
  listenHandle : Option Lease
  systemRunning : Bool
  transportSubscription : Option Lease
  actors : List Lease
  leases : Leases Resource
  calls : List Call
  last : Option Outcome

def created : Node where
  running := false
  gatewayServer := none
  unsubscribeDiscovery := none
  subscriptionTeardowns := []
  listenHandle := none
  systemRunning := false
  transportSubscription := none
  actors := []
  leases := Leases.none
  calls := []
  last := none

def Startup.rollbackOps (c : Startup) : List ReleaseOp :=
  (if c.registeredSelf then [.unregisterSelf] else []) ++
    [.unsubscribeDiscovery, .closeGateway, .teardownSubscriptions] ++
    (if c.systemStarted then [.stopSystem] else []) ++
    (if c.transportStarted then [.stopTransport] else [])

section Options

variable (o : NodeOptions)

def NodeOptions.resources : List Resource :=
  (if o.startable then [.transport] else []) ++ [.system] ++ o.actors.map .actor ++
    (List.range o.pairs).map .subscription ++ (if o.gateway then [.gateway] else []) ++
    (if o.watches then [.discovery] else [])

def NodeOptions.openOps : List StartOp :=
  (if o.gateway then [.importServer, .createServer] else []) ++
    (if o.discovery then [.getPeers] else []) ++ [.discover] ++
    (if o.connects then [.join] else []) ++ (if o.registers then [.registerSelf] else [])

def NodeOptions.startOps : List StartOp :=
  .startTransport :: .startSystem :: (o.actors.map .spawn ++
    .spawned :: ((List.range o.pairs).map .wire ++ .wired :: o.openOps))

def NodeOptions.stopOps (n : Node) : List ReleaseOp :=
  n.gatewayServer.toList.map .closeServer ++ (if o.registers then [.unregisterSelf] else []) ++
    [.teardownSubscriptions, .stopSystem, .stopTransport] ++
    n.unsubscribeDiscovery.toList.map .unsubscribe

end Options

namespace Node

variable (o : NodeOptions) (n : Node)

def free (l : Lease) : Node := { n with leases := n.leases.release l }

/-- Runs a stop or a rollback up to its next await; what has no await in front of
the next one is done on the way. -/
def release (n : Node) (startFailed : Bool) : List ReleaseOp → Node × Option Call
  | [] => ({ n with last := some (if startFailed then .startFailed else .stopped) }, none)
  | .closeServer l :: rest =>
    (n.free l, some (.release ⟨startFailed, .closeServer l, false, rest⟩))
  | .unsubscribe l :: rest => (n.free l).release startFailed rest
  | .unsubscribeDiscovery :: rest =>
    match n.unsubscribeDiscovery with
    | none => n.release startFailed rest
    | some l => ({ n with unsubscribeDiscovery := none }.free l).release startFailed rest
  | .closeGateway :: rest =>
    match n.gatewayServer with
    | none => n.release startFailed rest
    | some l =>
      ({ n with gatewayServer := none }.free l,
        some (.release ⟨startFailed, .closeGateway, false, rest⟩))
  | .teardownSubscriptions :: rest =>
    match n.subscriptionTeardowns with
    | [] => (n, some (.release ⟨startFailed, .tornDown, false, rest⟩))
    | l :: ls =>
      ({ n with subscriptionTeardowns := [] }.free l,
        some (.release ⟨startFailed, .teardown l, false,
          ls.map .teardown ++ .tornDown :: rest⟩))
  | .teardown l :: rest =>
    (n.free l, some (.release ⟨startFailed, .teardown l, false, rest⟩))
  | .stopSystem :: rest =>
    ({ n with systemRunning := false },
      some (.release ⟨startFailed, .stopSystem, n.systemRunning, rest⟩))
  | .stopTransport :: rest =>
    ({ n with
        listenHandle := none
        leases := n.leases.releaseAll n.listenHandle.toList },
      some (.release ⟨startFailed, .stopTransport, false, rest⟩))
  | op :: rest => (n, some (.release ⟨startFailed, op, false, rest⟩))

def rollback (c : Startup) : Node × Option Call :=
  { n with running := false }.release true c.rollbackOps

/-- Runs a start up to its next await. `goesOn` says whether the checks made on
the way go through: those of `spawn`, and the provider's `subscribe`. -/
def advance (n : Node) (c : Startup) (goesOn : Bool) : List StartOp → Node × Option Call
  | [] => ({ n with running := true, last := some .started }, none)
  | .discover :: rest =>
    if goesOn then
      if o.watches then
        { n with
          unsubscribeDiscovery := some (n.leases.fresh .discovery)
          leases := n.leases.acquire .discovery }.advance c goesOn rest
      else { n with unsubscribeDiscovery := none }.advance c goesOn rest
    else n.rollback c
  | .registerSelf :: rest =>
    if o.listens ∧ n.listenHandle.isSome then
      (n, some (.start { c with awaiting := .registerSelf, begun := true, rest := rest }))
    else n.advance c goesOn rest
  | .startTransport :: rest =>
    (n, some (.start
      { c with
        awaiting := .startTransport
        begun := o.startable && n.listenHandle.isNone
        rest := rest }))
  | .startSystem :: rest =>
    if n.systemRunning then
      (n, some (.start { c with awaiting := .startSystem, begun := false, rest := rest }))
    else
      ({ n with
          systemRunning := true
          transportSubscription := some (n.leases.fresh .system)
          leases := n.leases.acquire .system },
        some (.start { c with awaiting := .startSystem, begun := true, rest := rest }))
  | .spawn address :: rest =>
    if goesOn ∧ n.systemRunning then
      ({ n with
          actors := (n.actors.filter fun l => l.1 ≠ .actor address) ++
            [n.leases.fresh (.actor address)]
          leases := n.leases.acquire (.actor address) },
        some (.start { c with awaiting := .spawn address, begun := true, rest := rest }))
    else (n, some (.start { c with awaiting := .spawn address, begun := false, rest := rest }))
  | op :: rest => (n, some (.start { c with awaiting := op, begun := true, rest := rest }))

/-- The effect of what a start awaits when it resolves; `peers` is the number of
peers that the discovery provider answers with. -/
def resolve (c : Startup) (peers : Nat) : Node × Startup :=
  match c.awaiting with
  | .startTransport =>
    if c.begun then
      ({ n with
          listenHandle := some (n.leases.fresh .transport)
          leases := n.leases.acquire .transport },
        { c with transportStarted := true })
    else (n, { c with transportStarted := true })
  | .startSystem => (n, { c with systemStarted := true })
  | .wire pair =>
    ({ n with leases := n.leases.acquire (.subscription pair) },
      { c with teardowns := c.teardowns ++ [n.leases.fresh (.subscription pair)] })
  | .wired => ({ n with subscriptionTeardowns := c.teardowns }, { c with teardowns := [] })
  | .createServer =>
    ({ n with
        gatewayServer := some (n.leases.fresh .gateway)
        leases := n.leases.acquire .gateway }, c)
  | .getPeers => (n, { c with rest := List.replicate peers .connectPeer ++ c.rest })
  | .registerSelf => (n, { c with registeredSelf := true })
  | _ => (n, c)

/-- The effect of what a stop awaits when it settles: the actor system stops its
actors and leaves the transport, unless that fails on the way. -/
def settleRelease (c : Shutdown) (ok : Bool) : Node :=
  if c.stopping ∧ ok then
    { n with
      actors := []
      transportSubscription := none
      leases := n.leases.releaseAll (n.actors ++ n.transportSubscription.toList) }
  else n

def put (i : Nat) (r : Node × Option Call) : Node :=
  { r.1 with calls := r.1.calls.take i ++ r.2.toList ++ r.1.calls.drop (i + 1) }

def start : Node :=
  if n.running then { n with last := some .started }
  else
    put n.calls.length
      (n.advance o ⟨.startTransport, false, [], [], false, false, false⟩ true o.startOps)

def stop : Node :=
  put n.calls.length
    ({ n with gatewayServer := none, running := false, unsubscribeDiscovery := none }.release false
      (o.stopOps n))

end Node

inductive Act
  | start
  | stop
  | settle (i : Nat) (ok : Bool) (peers : Nat) (goesOn : Bool)

def Call.settle (o : NodeOptions) (n : Node) (ok : Bool) (peers : Nat) (goesOn : Bool) :
    Call → Option (Node × Option Call)
  | .start c =>
    if c.settles ok then
      if ok then
        let r := n.resolve c peers
        some (r.1.advance o r.2 goesOn r.2.rest)
      else some (n.rollback c)
    else none
  | .release c => some ((n.settleRelease c ok).release c.startFailed c.rest)

def step (o : NodeOptions) (n : Node) : Act → Option Node
  | .start => some (n.start o)
  | .stop => some (n.stop o)
  | .settle i ok peers goesOn =>
    (n.calls[i]?.bind (Call.settle o n ok peers goesOn)).map (Node.put i)

end ActorWeb.WebNode
