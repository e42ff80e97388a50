import ActorWeb.TransportContract

namespace ActorWeb.TransportCore

open TransportContract

structure Config where
  identity : RuntimeNodeIdentity
  heartbeatIntervalMs : Int := 15000
  heartbeatTimeoutMs : Int := 30000
  idempotencyWindowSize : Int := 1024
  ackTimeoutMs : Int := 1000
  maxAckRetries : Int := 2
  outboundQueueLimit : Int := 1024
  maxFrameBytes : Nat
  measureFrameBytes : RuntimeTransportFrame → Nat
  idempotencyProvider : Bool

structure PendingAck where
  frame : RuntimeTransportFrame
  attempts : Nat := 0
  lastSentAtMs : Int
  timer : Option Nat := none

structure OutboundQueueItem where
  frame : RuntimeTransportFrame
  trackAck : Bool
  /-- The address that the handler of a rejection disconnects, if it does so. -/
  onReject : Option String

structure Peer where
  link : Nat
  identity : RuntimeNodeIdentity
  sequence : Nat := 0
  lastReceivedSequence : Nat := 0
  idempotencyCache : FrontCache
  pendingAcks : OrderedMap String Nat := .empty
  outboundQueue : List OutboundQueueItem := []
  outboundFlushing : Bool := false
  lastSeenAt : Int
  heartbeatInterval : Option Nat := none
  heartbeatTimeout : Option Nat := none
  unlistenReceive : Bool := false
  unlistenAlive : Bool := false
  connected : Bool := true

/-- A peer link; `sink` and `onAlive` hold the address its listeners were given. -/
structure PeerLink where
  identity : Option RuntimeNodeIdentity
  remoteAddress : String
  (heartbeat isOpen : Bool)
  sink : Option String := none
  onAlive : Option String := none

inductive TimerTask
  | heartbeatInterval (nodeAddress : String) (peer : Nat)
  | heartbeatTimeout (nodeAddress : String) (peer : Nat)
  | ackRetry (nodeAddress : String) (peer pending : Nat)

/-- Promises of foreign code that a continuation of the core awaits. -/
inductive Job
  | dialing (address : String)
  | verifying (address : String) (link : Nat) (identity : RuntimeNodeIdentity)
  | drainSend (nodeAddress : String) (peer : Nat) (item : OutboundQueueItem)
  | controlSend (nodeAddress : String) (peer : Nat)
  | claiming (nodeAddress : String) (peer : Nat) (frame : RuntimeTransportFrame)

inductive ClaimSource
  | memory
  | provider
deriving DecidableEq

inductive ClaimOutcome
  | accepted (source : ClaimSource) (evicted : List String)
  | duplicate (source : ClaimSource) (evicted : List String)
  | error

inductive Microtask
  | claimed (job : Nat) (nodeAddress : String) (peer : Nat) (frame : RuntimeTransportFrame)
      (outcome : ClaimOutcome)
  | retryRejected (nodeAddress : String) (peer : Nat)

inductive Counter
  | framesSent | framesReceived | framesAcked | framesRetried | retryExhaustedCount
  | outboundFramesDropped | backpressureDropCount | duplicateFramesDropped | idempotencyCacheEvictions
  | idempotencyProviderClaimCount | idempotencyProviderDuplicateCount | idempotencyProviderErrorCount
  | malformedFramesDropped | validationFramesDropped | sequenceGapCount | handshakeAcceptedCount
  | handshakeRejectedCount | disconnectCount | reconnectCount | heartbeatTimeoutCount
deriving DecidableEq

structure Stats where
  total : Counter → Nat
  peers : OrderedMap String (Counter → Nat)
  outboundQueueDepth : Nat

inductive Event
  | connected (nodeAddress : String) (peer : Nat)
  | disconnected (nodeAddress : String) (peer : Nat)
  | closed (nodeAddress : String) (peer : Nat)
  | numbered (peer : Nat) (frame : RuntimeTransportFrame)
  | linkSend (peer : Nat) (frame : RuntimeTransportFrame)
  | arrived (job peer : Nat) (frame : RuntimeTransportFrame)
  | claimAnswered (job peer : Nat) (key : String) (duplicate : Bool)
  | received (job peer : Nat) (frame : RuntimeTransportFrame)
  | emitted (job peer : Nat) (frame : RuntimeTransportFrame)
  | duplicateDropped (job peer : Nat) (frame : RuntimeTransportFrame)
  | acked (peer : Nat) (messageId : String)
  | retryScheduled (peer : Nat) (messageId : String)
  | retryExhausted (peer : Nat) (messageId : String)
deriving DecidableEq

structure Core where
  config : Config
  now : Int
  peers : OrderedMap String Nat
  records : Nat → Peer
  nextRecord : Nat
  links : Nat → PeerLink
  nextLink : Nat
  pendings : Nat → PendingAck
  nextPending : Nat
  timers : Nat → Option TimerTask
  nextTimer : Nat
  jobs : Nat → Option Job
  nextJob : Nat
  microtasks : List Microtask
  stats : Stats
  log : List Event

def noIdentity : RuntimeNodeIdentity := ⟨"", "", ""⟩

def noFrame : RuntimeTransportFrame := ⟨noIdentity, noIdentity, "", 0, ⟨"", ""⟩⟩

def create (config : Config) : Core where
  config := config
  now := 0
  peers := .empty
  records := fun _ => { link := 0, identity := noIdentity, idempotencyCache := ⟨0, [], []⟩, lastSeenAt := 0 }
  nextRecord := 0
  links := fun _ => { identity := none, remoteAddress := "", heartbeat := false, isOpen := false }
  nextLink := 0
  pendings := fun _ => { frame := noFrame, lastSentAtMs := 0 }
  nextPending := 0
  timers := fun _ => none
  nextTimer := 0
  jobs := fun _ => none
  nextJob := 0
  microtasks := []
  stats := ⟨fun _ => 0, .empty, 0⟩
  log := []

namespace Core

def emit (c : Core) (e : Event) : Core := { c with log := c.log ++ [e] }

def modifyRecord (c : Core) (p : Nat) (f : Peer → Peer) : Core :=
  { c with records := Function.update c.records p (f (c.records p)) }

@[simp] theorem modifyRecord_records_self (c : Core) (p : Nat) (f : Peer → Peer) :
    (c.modifyRecord p f).records p = f (c.records p) := Function.update_self _ _ _

theorem modifyRecord_records_ne (c : Core) {p q : Nat} (f : Peer → Peer) (h : q ≠ p) :
    (c.modifyRecord p f).records q = c.records q := Function.update_of_ne h _ _

def modifyLink (c : Core) (l : Nat) (f : PeerLink → PeerLink) : Core :=
  { c with links := Function.update c.links l (f (c.links l)) }

def modifyPending (c : Core) (i : Nat) (f : PendingAck → PendingAck) : Core :=
  { c with pendings := Function.update c.pendings i (f (c.pendings i)) }

def setTimer (c : Core) (t : Nat) (task : Option TimerTask) : Core :=
  { c with timers := Function.update c.timers t task }

def clearTimer (c : Core) : Option Nat → Core
  | some t => c.setTimer t none
  | none => c

def addTimer (c : Core) (task : TimerTask) : Core :=
  { c.setTimer c.nextTimer (some task) with nextTimer := c.nextTimer + 1 }

def setJob (c : Core) (j : Nat) (job : Option Job) : Core :=
  { c with jobs := Function.update c.jobs j job }

def addJob (c : Core) (job : Job) : Core :=
  { c.setJob c.nextJob (some job) with nextJob := c.nextJob + 1 }

def addMicrotask (c : Core) (m : Microtask) : Core := { c with microtasks := c.microtasks ++ [m] }

def isRegistered (c : Core) (nodeAddress : String) (p : Nat) : Bool := c.peers.get nodeAddress = some p

def linkOpen (c : Core) (p : Nat) : Bool := (c.links (c.records p).link).isOpen

end Core

variable (c : Core)

variable (nodeAddress : String)

def touchPeerStats : Core :=
  { c with stats := { c.stats with
      peers := c.stats.peers.set nodeAddress ((c.stats.peers.get nodeAddress).getD fun _ => 0) } }

def peerCount (k : Counter) : Nat :=
  ((c.stats.peers.get nodeAddress).getD fun _ => 0) k

def setPeerCount (k : Counter) (n : Nat) : Core :=
  { c with stats := { c.stats with
      peers := c.stats.peers.set nodeAddress
        (Function.update ((c.stats.peers.get nodeAddress).getD fun _ => 0) k n) } }

def countTotal (k : Counter) : Core :=
  { c with stats := { c.stats with total := Function.update c.stats.total k (c.stats.total k + 1) } }

def count (k : Counter) : Core :=
  setPeerCount (countTotal c k) nodeAddress k (peerCount c nodeAddress k + 1)

def recordPeerConnected : Core :=
  let again := peerCount c nodeAddress .disconnectCount ≠ 0
  setPeerCount
    (if again then countTotal (count c nodeAddress .handshakeAcceptedCount) .reconnectCount
      else count c nodeAddress .handshakeAcceptedCount)
    nodeAddress .reconnectCount (if again then peerCount c nodeAddress .reconnectCount + 1 else 0)

def recordHandshakeRejected : Core :=
  count c nodeAddress .handshakeRejectedCount

def recordAuthRejected : Core := touchPeerStats c nodeAddress

def recordPeerDisconnected : Core := count c nodeAddress .disconnectCount

def recordFrameSent : Core := count c nodeAddress .framesSent

def recordFrameReceived (p : Nat) (frame : RuntimeTransportFrame) : Core :=
  count
    ((if (c.records p).lastReceivedSequence + 1 < frame.sequence then count c nodeAddress .sequenceGapCount
      else c).modifyRecord p fun r =>
        { r with lastReceivedSequence := max r.lastReceivedSequence frame.sequence })
    nodeAddress .framesReceived

def recordIdempotencyCacheEvictions (evicted : List String) : Core :=
  evicted.foldl (fun c _ => count c nodeAddress .idempotencyCacheEvictions) c

def recordDuplicateFrameDropped : ClaimSource → Core
  | .memory => count c nodeAddress .duplicateFramesDropped
  | .provider => count (count c nodeAddress .duplicateFramesDropped) nodeAddress .idempotencyProviderDuplicateCount

def recordFrameDropped : DropCode → Core
  | .malformedFrame => count c nodeAddress .malformedFramesDropped
  | .incompatibleProtocol => count c nodeAddress .validationFramesDropped
  | .idempotencyProviderError => c

def updateOutboundQueueDepth : Core :=
  { touchPeerStats c nodeAddress with stats := { (touchPeerStats c nodeAddress).stats with
      outboundQueueDepth := c.peers.values.foldl (fun total p => total + (c.records p).outboundQueue.length) 0 } }

variable (p : Nat)

def clearHeartbeat : Core :=
  ((c.clearTimer (c.records p).heartbeatInterval).clearTimer (c.records p).heartbeatTimeout).modifyRecord p
    fun r => { r with heartbeatInterval := none, heartbeatTimeout := none }

def clearPendingAcks : Core :=
  ((c.records p).pendingAcks.values.foldl (fun c i => c.clearTimer (c.pendings i).timer) c).modifyRecord p
    fun r => { r with pendingAcks := .empty }

/-- The rejection of a queued item; that of a retry is handled by a later microtask. -/
def rejectItem (c : Core) (item : OutboundQueueItem) : Core :=
  match item.onReject with
  | some nodeAddress => c.addMicrotask (.retryRejected nodeAddress p)
  | none => c

def rejectQueuedFrames : Core :=
  (c.records p).outboundQueue.foldl (rejectItem p) (c.modifyRecord p fun r => { r with outboundQueue := [] })

def unlisten : Core :=
  c.modifyLink (c.records p).link fun l =>
    { l with
      sink := if (c.records p).unlistenReceive then none else l.sink
      onAlive := if (c.records p).unlistenAlive then none else l.onAlive }

def closePeer (p : Nat) (emitDisconnected : Bool) : Core :=
  let c := unlisten (rejectQueuedFrames (clearPendingAcks (clearHeartbeat c p) p) p) p
  let c := { c with peers := c.peers.delete nodeAddress }.modifyLink (c.records p).link fun l =>
    { l with isOpen := false }
  let c := recordPeerDisconnected (c.modifyRecord p fun r => { r with connected := false }) nodeAddress
  if emitDisconnected then (c.emit (.closed nodeAddress p)).emit (.disconnected nodeAddress p)
  else c.emit (.closed nodeAddress p)

variable (address : String)

def disconnect : Core :=
  match c.peers.get address with
  | none => c
  | some p => closePeer c address p true

def isConnected : Bool :=
  match c.peers.get address with
  | none => false
  | some p => c.linkOpen p && (c.records p).connected

def handlePeerClosed (link : Nat) : Core :=
  match c.peers.get nodeAddress with
  | none => c
  | some p => if (c.records p).link = link then closePeer c nodeAddress p true else c

def markPeerSeen (link : Nat) : Core :=
  match c.peers.get nodeAddress with
  | none => c
  | some p =>
    if (c.records p).link = link then
      (c.clearTimer (c.records p).heartbeatTimeout).modifyRecord p fun r =>
        { r with lastSeenAt := c.now, heartbeatTimeout := none }
    else c

def sendControl (p : Nat) : Core := c.addJob (.controlSend nodeAddress p)

def sendAck (p : Nat) : Core := sendControl c nodeAddress p

def leaveDrain : Core := c.modifyRecord p fun r => { r with outboundFlushing := false }

/-- One turn of the drain loop: the next `link.send`, or the end of the loop.
The `finally` block has nothing to flush again: the loop ends with an empty
queue, with a peer that is not registered or with a link that is not open. -/
def drainOutboundQueue (p : Nat) : Core :=
  match (c.records p).outboundQueue with
  | [] => leaveDrain c p
  | item :: rest =>
    if c.isRegistered nodeAddress p && c.linkOpen p then
      ((updateOutboundQueueDepth (c.modifyRecord p fun r => { r with outboundQueue := rest })
        nodeAddress).addJob (.drainSend nodeAddress p item)).emit (.linkSend p item.frame)
    else leaveDrain c p

def flushOutboundQueue (p : Nat) : Core :=
  if (c.records p).outboundFlushing then c
  else drainOutboundQueue (c.modifyRecord p fun r => { r with outboundFlushing := true }) nodeAddress p

def enqueueFrame (p : Nat) (item : OutboundQueueItem) : Core :=
  match resolveBackpressure (c.records p).outboundQueue.length c.config.outboundQueueLimit with
  | .drop =>
    rejectItem p (count (count c nodeAddress .outboundFramesDropped) nodeAddress .backpressureDropCount) item
  | .enqueue =>
    flushOutboundQueue
      (updateOutboundQueueDepth
        (c.modifyRecord p fun r => { r with outboundQueue := r.outboundQueue ++ [item] }) nodeAddress)
      nodeAddress p

def send (destination : String) (message : ActorMessage) : Core :=
  match c.peers.get destination with
  | none => c
  | some p =>
    let frame := createRuntimeTransportFrame c.config.identity (c.records p).identity
      ((c.records p).sequence + 1) message
    if c.config.maxFrameBytes < c.config.measureFrameBytes frame then
      count (count c destination .outboundFramesDropped) destination .validationFramesDropped
    else
      enqueueFrame ((c.modifyRecord p fun r => { r with sequence := r.sequence + 1 }).emit (.numbered p frame))
        destination p ⟨frame, true, none⟩

def flushPeer : Core :=
  match c.peers.get address with
  | none => c
  | some p => flushOutboundQueue c address p

def armAckRetry (p i : Nat) : Core :=
  (c.modifyPending i fun a => { a with timer := some c.nextTimer }).addTimer (.ackRetry nodeAddress p i)

def trackAckIfRetryable (p : Nat) (frame : RuntimeTransportFrame) : Core :=
  if !isRetryableRuntimeFrame frame then c
  else if resolveAckRetry 0 c.now c.now c.config.ackTimeoutMs c.config.maxAckRetries = .giveUp then c
  else
    armAckRetry
      ({ c with
          pendings := Function.update c.pendings c.nextPending { frame := frame, lastSentAtMs := c.now }
          nextPending := c.nextPending + 1 }.modifyRecord p fun r =>
        { r with pendingAcks := r.pendingAcks.set frame.messageId c.nextPending })
      nodeAddress p c.nextPending

def drainSettled (p : Nat) (item : OutboundQueueItem) (ok : Bool) : Core :=
  if ok then
    drainOutboundQueue
      (if item.trackAck then trackAckIfRetryable (recordFrameSent c nodeAddress) nodeAddress p item.frame
        else recordFrameSent c nodeAddress)
      nodeAddress p
  else leaveDrain (disconnect (rejectItem p c item) nodeAddress) p

def clearPendingAck (p : Nat) (messageId : String) : Core :=
  match (c.records p).pendingAcks.get messageId with
  | none => c
  | some i =>
    count
      (((c.clearTimer (c.pendings i).timer).modifyPending i fun a => { a with timer := none }).modifyRecord p
        fun r => { r with pendingAcks := r.pendingAcks.delete messageId })
      nodeAddress .framesAcked

def ackRetryFires (p i : Nat) : Core :=
  let pending := c.pendings i
  if !c.isRegistered nodeAddress p || !(c.records p).pendingAcks.has pending.frame.messageId then c
  else
    match resolveAckRetry pending.attempts pending.lastSentAtMs c.now c.config.ackTimeoutMs
        c.config.maxAckRetries with
    | .giveUp =>
      (count
        (c.modifyRecord p fun r => { r with pendingAcks := r.pendingAcks.delete pending.frame.messageId })
        nodeAddress .retryExhaustedCount).emit (.retryExhausted p pending.frame.messageId)
    | .wait => armAckRetry c nodeAddress p i
    | .retry =>
      enqueueFrame
        (armAckRetry
          ((count (c.modifyPending i fun a => { a with attempts := a.attempts + 1, lastSentAtMs := c.now })
            nodeAddress .framesRetried).emit (.retryScheduled p pending.frame.messageId))
          nodeAddress p i)
        nodeAddress p ⟨pending.frame, false, some nodeAddress⟩

def armHeartbeatTimeout (p : Nat) : Core :=
  if c.config.heartbeatTimeoutMs ≤ 0 || (c.records p).heartbeatTimeout.isSome then c
  else
    (c.modifyRecord p fun r => { r with heartbeatTimeout := some c.nextTimer }).addTimer
      (.heartbeatTimeout nodeAddress p)

def heartbeatTimeoutFires (p : Nat) : Core :=
  let c := c.modifyRecord p fun r => { r with heartbeatTimeout := none }
  if !c.isRegistered nodeAddress p then c
  else
    match resolveHeartbeat (c.records p).lastSeenAt c.now c.config.heartbeatTimeoutMs with
    | .timedOut => closePeer (count c nodeAddress .heartbeatTimeoutCount) nodeAddress p true
    | .alive => armHeartbeatTimeout c nodeAddress p

def heartbeatIntervalFires (p : Nat) : Core :=
  if !c.linkOpen p || !c.isRegistered nodeAddress p then clearHeartbeat c p
  else if (c.links (c.records p).link).heartbeat then armHeartbeatTimeout c nodeAddress p
  else armHeartbeatTimeout (sendControl c nodeAddress p) nodeAddress p

def startHeartbeat (p : Nat) : Core :=
  if c.config.heartbeatIntervalMs ≤ 0 then c
  else
    (c.modifyRecord p fun r => { r with heartbeatInterval := some c.nextTimer }).addTimer
      (.heartbeatInterval nodeAddress p)

def sourceMatches (p : Nat) (source : RuntimeNodeIdentity) : Bool :=
  source.nodeAddress = nodeAddress && source.nodeId = (c.records p).identity.nodeId &&
    source.incarnation = (c.records p).identity.incarnation

def dropAndDisconnect (code : DropCode) : Core :=
  disconnect (recordFrameDropped c nodeAddress code) nodeAddress

def handleHeartbeatFrame (p : Nat) (ping : Bool)
    (source destination : RuntimeNodeIdentity) : Core :=
  if !isSameRuntimeNodeIdentity destination c.config.identity || !sourceMatches c nodeAddress p source then
    dropAndDisconnect c nodeAddress .malformedFrame
  else if ping then sendControl (markPeerSeen c nodeAddress (c.records p).link) nodeAddress p
  else markPeerSeen c nodeAddress (c.records p).link

def handleAckFrame (p : Nat) (source destination : RuntimeNodeIdentity)
    (messageId : String) : Core :=
  if !isSameRuntimeNodeIdentity destination c.config.identity || messageId = "" ||
      !sourceMatches c nodeAddress p source then
    dropAndDisconnect c nodeAddress .malformedFrame
  else
    clearPendingAck ((markPeerSeen c nodeAddress (c.records p).link).emit (.acked p messageId)) nodeAddress p
      messageId

/-- `claimRuntimeTransportFrameIdempotency` up to its first await. -/
def claim (p : Nat) (frame : RuntimeTransportFrame) : Core :=
  let c := c.emit (.arrived c.nextJob p frame)
  if (c.records p).idempotencyCache.has frame.messageId then
    { c with nextJob := c.nextJob + 1 }.addMicrotask
      (.claimed c.nextJob nodeAddress p frame (.duplicate .memory []))
  else if !c.config.idempotencyProvider then
    ({ c with nextJob := c.nextJob + 1 }.modifyRecord p fun r =>
      { r with idempotencyCache := (r.idempotencyCache.remember frame.messageId).1 }).addMicrotask
        (.claimed c.nextJob nodeAddress p frame
          (.accepted .memory ((c.records p).idempotencyCache.remember frame.messageId).2))
  else c.addJob (.claiming nodeAddress p frame)

def handleInboundPayload (link : Nat) (payload : Payload) : Core :=
  match c.peers.get nodeAddress with
  | none => c
  | some p =>
    if (c.records p).link ≠ link then c
    else
      match payload with
      | .invalid code => dropAndDisconnect c nodeAddress code
      | .heartbeat ping source destination => handleHeartbeatFrame c nodeAddress p ping source destination
      | .ack source destination messageId _ => handleAckFrame c nodeAddress p source destination messageId
      | .frame frame =>
        if !isSameRuntimeNodeIdentity frame.destination c.config.identity || frame.messageId = "" ||
            frame.message.type = "" || !sourceMatches c nodeAddress p frame.source then
          dropAndDisconnect c nodeAddress .malformedFrame
        else claim (markPeerSeen c nodeAddress link) nodeAddress p frame

inductive ClaimAnswer
  | claimed
  | duplicate
  | error

def claimAnswered (c : Core) (job : Nat) (nodeAddress : String) (p : Nat) (frame : RuntimeTransportFrame)
    (answer : ClaimAnswer) : Core :=
  let evicted := ((c.records p).idempotencyCache.remember frame.messageId).2
  let key := idempotencyKey c.config.identity (c.records p).identity frame
  let remembered := c.modifyRecord p fun r =>
    { r with idempotencyCache := (r.idempotencyCache.remember frame.messageId).1 }
  match answer with
  | .claimed =>
    (remembered.emit (.claimAnswered job p key false)).addMicrotask
      (.claimed job nodeAddress p frame (.accepted .provider evicted))
  | .duplicate =>
    (remembered.emit (.claimAnswered job p key true)).addMicrotask
      (.claimed job nodeAddress p frame (.duplicate .provider evicted))
  | .error => c.addMicrotask (.claimed job nodeAddress p frame .error)

def claimResumed (job : Nat) (nodeAddress : String) (p : Nat) (frame : RuntimeTransportFrame) :
    ClaimOutcome → Core
  | .error =>
    dropAndDisconnect (count c nodeAddress .idempotencyProviderErrorCount) nodeAddress
      .idempotencyProviderError
  | .duplicate source evicted =>
    sendAck
      ((recordDuplicateFrameDropped (recordIdempotencyCacheEvictions c nodeAddress evicted) nodeAddress
        source).emit (.duplicateDropped job p frame)) nodeAddress p
  | .accepted source evicted =>
    let c := recordIdempotencyCacheEvictions c nodeAddress evicted
    let c := if source = .provider then count c nodeAddress .idempotencyProviderClaimCount else c
    (sendAck ((recordFrameReceived c nodeAddress p frame).emit (.received job p frame)) nodeAddress p).emit
      (.emitted job p frame)

inductive LinkFact
  | payload (payload : Payload)
  | closed

def handleFact (link : Nat) (c : Core) : LinkFact → Core
  | .payload payload => handleInboundPayload c nodeAddress link payload
  | .closed => handlePeerClosed c nodeAddress link

def canAcceptPeer (identity : RuntimeNodeIdentity) : Bool :=
  match c.peers.get identity.nodeAddress with
  | none => true
  | some p => (c.records p).identity.nodeId = identity.nodeId

variable (link : Nat)

def replacePeer (identity : RuntimeNodeIdentity) : Core :=
  match c.peers.get identity.nodeAddress with
  | none => c
  | some existing =>
    if (c.records existing).link = link then c else closePeer c identity.nodeAddress existing false

def addPeer (identity : RuntimeNodeIdentity) : Core :=
  { c with
    records := Function.update c.records c.nextRecord
      { link := link
        identity := identity
        idempotencyCache := { limit := c.config.idempotencyWindowSize }
        lastSeenAt := c.now }
    nextRecord := c.nextRecord + 1
    peers := c.peers.set identity.nodeAddress c.nextRecord }

def listenAlive (link p : Nat) : Core :=
  if (c.links link).heartbeat then
    (c.modifyLink link fun l => { l with onAlive := some nodeAddress }).modifyRecord p fun r =>
      { r with unlistenAlive := true }
  else c

def listenReceive (link p : Nat) (facts : List LinkFact) : Core :=
  (facts.foldl (handleFact nodeAddress link)
    (c.modifyLink link fun l => { l with sink := some nodeAddress })).modifyRecord p
      fun r => { r with unlistenReceive := true }

def registerPeer (identity : RuntimeNodeIdentity) (facts : List LinkFact) : Core :=
  let nodeAddress := identity.nodeAddress
  let p := (replacePeer c link identity).nextRecord
  let registered := recordPeerConnected (addPeer (replacePeer c link identity) link identity) nodeAddress
  (startHeartbeat (listenAlive (listenReceive registered nodeAddress link p facts) nodeAddress link p)
    nodeAddress p).emit (.connected nodeAddress p)

def recordInboundHandshakeRejection (auth : Bool) : Core :=
  if isConnected c nodeAddress then c
  else if auth then recordHandshakeRejected (recordAuthRejected c nodeAddress) nodeAddress
  else recordHandshakeRejected c nodeAddress

def addLink (l : PeerLink) : Core :=
  { c with links := Function.update c.links c.nextLink l, nextLink := c.nextLink + 1 }

def closeLink : Core := c.modifyLink link fun l => { l with isOpen := false }

def acceptInboundLink (l : PeerLink) (facts : List LinkFact) : Core :=
  match l.identity with
  | none => closeLink (addLink c l) c.nextLink
  | some identity =>
    if canAcceptPeer c identity then registerPeer (addLink c l) c.nextLink identity facts
    else recordInboundHandshakeRejection (closeLink (addLink c l) c.nextLink) identity.nodeAddress false

def connect (c : Core) (address : String) : Core :=
  if address = c.config.identity.nodeAddress then c
  else if (c.peers.get address).any c.linkOpen then c
  else (touchPeerStats c address).addJob (.dialing address)

/-- `connect` after its awaits, for a peer of known identity. -/
def connectPeer (link : Nat) (identity : RuntimeNodeIdentity)
    (facts : List LinkFact) : Core :=
  if canAcceptPeer c identity then registerPeer c link identity facts
  else recordHandshakeRejected (closeLink c link) address

def dialSettled (result : Option PeerLink) (facts : List LinkFact) : Core :=
  match result with
  | none => recordHandshakeRejected c address
  | some l =>
    match l.identity with
    | some identity => connectPeer (addLink c l) address c.nextLink identity facts
    | none =>
      (addLink c l).addJob
        (.verifying address c.nextLink ⟨l.remoteAddress, l.remoteAddress, "0"⟩)

def authSettled (link : Nat) (identity : RuntimeNodeIdentity) (ok : Bool)
    (facts : List LinkFact) : Core :=
  if ok then connectPeer c address link identity facts
  else recordAuthRejected (closeLink c link) address

def stop : Core := c.peers.entries.foldl (fun c e => closePeer c e.1 e.2 false) c

inductive Action
  | connect (address : String)
  | dialSettled (job : Nat) (result : Option PeerLink) (facts : List LinkFact)
  | authSettled (job : Nat) (ok : Bool) (facts : List LinkFact)
  | acceptInbound (link : PeerLink) (facts : List LinkFact)
  | rejectInbound (nodeAddress : String) (auth : Bool)
  | disconnect (address : String)
  | send (destination : String) (message : ActorMessage)
  | flushPeer (address : String)
  | linkFact (link : Nat) (fact : LinkFact)
  | linkAlive (link : Nat)
  | linkOpens (link : Nat) (isOpen : Bool)
  | sendSettled (job : Nat) (ok : Bool)
  | providerAnswers (job : Nat) (answer : ClaimAnswer)
  | microtask
  | timer (t : Nat)
  | clock (now : Int)
  | stop

def fireTimer (t : Nat) : TimerTask → Core
  | .heartbeatInterval nodeAddress p => heartbeatIntervalFires c nodeAddress p
  | .heartbeatTimeout nodeAddress p => heartbeatTimeoutFires (c.setTimer t none) nodeAddress p
  | .ackRetry nodeAddress p i => ackRetryFires (c.setTimer t none) nodeAddress p i

def runMicrotask : Microtask → Core
  | .claimed job nodeAddress p frame outcome => claimResumed c job nodeAddress p frame outcome
  | .retryRejected nodeAddress _ => disconnect c nodeAddress

def step : Action → Option Core
  | .connect address => some (connect c address)
  | .dialSettled job result facts =>
    match c.jobs job with
    | some (.dialing address) => some (dialSettled (c.setJob job none) address result facts)
    | _ => none
  | .authSettled job ok facts =>
    match c.jobs job with
    | some (.verifying address link identity) =>
      some (authSettled (c.setJob job none) address link identity ok facts)
    | _ => none
  | .acceptInbound link facts => some (acceptInboundLink c link facts)
  | .rejectInbound nodeAddress auth => some (recordInboundHandshakeRejection c nodeAddress auth)
  | .disconnect address => some (disconnect c address)
  | .send destination message => some (send c destination message)
  | .flushPeer address => some (flushPeer c address)
  | .linkFact link fact =>
    match (c.links link).sink with
    | some nodeAddress => some (handleFact nodeAddress link c fact)
    | none => none
  | .linkAlive link =>
    match (c.links link).onAlive with
    | some nodeAddress => some (markPeerSeen c nodeAddress link)
    | none => none
  | .linkOpens link isOpen => some (c.modifyLink link fun l => { l with isOpen := isOpen })
  | .sendSettled job ok =>
    match c.jobs job with
    | some (.drainSend nodeAddress p item) => some (drainSettled (c.setJob job none) nodeAddress p item ok)
    | some (.controlSend nodeAddress _) =>
      some (if ok then c.setJob job none else disconnect (c.setJob job none) nodeAddress)
    | _ => none
  | .providerAnswers job answer =>
    match c.jobs job with
    | some (.claiming nodeAddress p frame) =>
      some (claimAnswered (c.setJob job none) job nodeAddress p frame answer)
    | _ => none
  | .microtask =>
    match c.microtasks with
    | m :: rest => some (runMicrotask { c with microtasks := rest } m)
    | [] => none
  | .timer t => (c.timers t).map (fireTimer c t)
  | .clock now => some { c with now := now }
  | .stop => some (stop c)

section Nodes

def nodeA : Config where
  identity := ⟨"a", "node-a", "1"⟩
  maxFrameBytes := 1000
  measureFrameBytes := fun frame => frame.message.body.length
  idempotencyProvider := true

def identityB : RuntimeNodeIdentity := ⟨"b", "node-b", "1"⟩

def linkFrom (identity : RuntimeNodeIdentity) : PeerLink where
  identity := some identity
  remoteAddress := identity.nodeAddress
  heartbeat := false
  isOpen := true

end Nodes

end ActorWeb.TransportCore
