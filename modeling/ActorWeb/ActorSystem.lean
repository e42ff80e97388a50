import ActorWeb.Mailbox
import ActorWeb.OrderedMap
import ActorWeb.Supervision

namespace ActorWeb.ActorSystem

open Supervision Function

/-- A message given to `enqueueMessage`, told apart from the others by its number. -/
structure Message where
  number : Nat
  address : ActorAddress
deriving DecidableEq

structure ActorBehavior where
  onStop : Bool

structure PureActorBehavior where
  object : Nat
  original : ActorBehavior

inductive StopReason
  | supervisorRestart
  | supervisorGroupRestart
  | supervisionStop
  | maxRestartsExceeded
  | supervisorEscalated
  | supervisorMaxRestartsExceeded
deriving DecidableEq

inductive SystemEvent
  | actorStopping
  | actorSpawned
  | actorStopped (reason : Option StopReason)
  | actorRestarted
  | actorRespawnFailed
  | actorEscalated
  | actorResumed
deriving DecidableEq

/-- What a run leaves behind: the system events, the `onStop` calls, the stops a
user asked for, the waits of supervised restarts, and what became of messages. -/
inductive Entry
  | event (e : SystemEvent) (address : ActorAddress)
  | onStop (address : ActorAddress)
  | userStop (address : ActorAddress)
  | backoff (invocation : Nat) (address : ActorAddress)
  | backoffOver (invocation : Nat) (address : ActorAddress)
  | respawn (invocation : Nat) (address : ActorAddress)
  | handled (address : ActorAddress) (m : Message)
  | filtered (m : Message)
  | skipped (m : Message)
  | dropped (m : Message)
deriving DecidableEq

/-- The await that `stopActor` is at. -/
inductive StopStage
  | stoppingEvent
  | onStop
  | publish
  | unregister
  | broadcast
  | stoppedEvent
deriving DecidableEq

/-- The await that `spawn` is at. -/
inductive SpawnStage
  | register
  | broadcast
  | spawnedEvent
deriving DecidableEq

/-- The await that `deliverMessageLocal` is at. -/
inductive DeliverStage
  | interceptors
  | onStart
  | handler
deriving DecidableEq

inductive Call
  | stop (address : ActorAddress) (reason : Option StopReason) (stage : StopStage)
  | spawn (address : ActorAddress) (stage : SpawnStage)
  | deliver (address : ActorAddress) (m : Message) (stage : DeliverStage)
  | enqueue (address : ActorAddress) (m : Message)
  | dequeued (address : ActorAddress) (m : Message)
  | timer (due : Nat)
  | systemEvent
  | macrotask
  | returned (threw : Bool)
deriving DecidableEq

structure Restart where
  address : ActorAddress
  behavior : PureActorBehavior
  respawnBehavior : ActorBehavior
  policy : Option ActorSupervisionPolicy
  (count startedAt : Nat)

inductive RestartStage
  | backoff
  | stop
  | spawn

structure Member where
  address : ActorAddress
  behavior : ActorBehavior
  policy : Option ActorSupervisionPolicy

structure GroupRestart where
  group : SupervisorGroupConfig
  failed : ActorAddress
  (stopOrder respawnOrder : List ActorAddress)
  captured : List Member
  (count startedAt : Nat)

namespace GroupRestart

def member (g : GroupRestart) (p : ActorAddress) : Option Member :=
  g.captured.find? fun m => m.address = p

def delete (g : GroupRestart) (p : ActorAddress) : GroupRestart :=
  { g with captured := g.captured.filter fun m => m.address ≠ p }

end GroupRestart

inductive Driver
  | finishing
  | escalating (address : ActorAddress)
  | restarting (restart : Restart) (stage : RestartStage)
  | waitingForGroup (g : GroupRestart)
  | stoppingMembers (g : GroupRestart) (rest : List ActorAddress)
  | respawningMembers (g : GroupRestart) (member : ActorAddress) (rest : List ActorAddress)
      (emitted : Bool)
  | givingUp (group : SupervisorGroupConfig) (failed : ActorAddress) (reason : GiveUpReason)
      (rest : List ActorAddress)
  | givenUp (group : SupervisorGroupConfig)

/-- What waits for the deliveries of an invocation: a round of `processActorMessages`
(scheduled or under way with its mailbox), an `enqueueMessage` in test mode, or
a caller outside the system. -/
inductive Base
  | caller
  | scheduled (address : ActorAddress)
  | processing (address : ActorAddress) (box processed : Nat)
  | testing (address : ActorAddress)
deriving DecidableEq

structure Invocation where
  call : Call
  driver : Option Driver
  base : Base

structure System where
  now : Nat
  (running testMode : Bool)
  maxActors : Nat
  supervisors : List SupervisorGroupConfig
  systemEventActor : Option ActorAddress
  actors : ActorAddress → Option PureActorBehavior
  originalBehaviors : ActorAddress → Option ActorBehavior
  policies : ActorAddress → Option ActorSupervisionPolicy
  instances : OrderedMap ActorAddress Unit
  behaviorHandlers : ActorAddress → Bool
  mailboxes : ActorAddress → Option Nat
  boxes : List (BoundedMailbox Message)
  (started processingLoops processingActive : ActorAddress → Bool)
  (restartCounts lastRestartTimes : ActorAddress → Nat)
  restartingGroups : List Char → Bool
  (deadLetters given : List Message)
  nextBehavior : Nat
  invocations : List Invocation
  log : List Entry

def start (maxActors : Nat) (supervisors : List SupervisorGroupConfig) : System where
  now := 0
  running := true
  testMode := false
  maxActors := maxActors
  supervisors := supervisors
  systemEventActor := none
  actors := fun _ => none
  originalBehaviors := fun _ => none
  policies := fun _ => none
  instances := .empty
  behaviorHandlers := fun _ => false
  mailboxes := fun _ => none
  boxes := []
  started := fun _ => false
  processingLoops := fun _ => false
  processingActive := fun _ => false
  restartCounts := fun _ => 0
  lastRestartTimes := fun _ => 0
  restartingGroups := fun _ => false
  deadLetters := []
  given := []
  nextBehavior := 0
  invocations := []
  log := []

/-- How the foreign code behind an await ended: handlers and `onStart` may throw,
interceptors may filter, the directory may miss. -/
inductive Outcome
  | ok
  | threw
  | filtered
  | missing

/-- What an invocation does at the end of a segment: wait, or begin a call. -/
inductive Request
  | await (call : Call)
  | stop (address : ActorAddress) (reason : Option StopReason)
  | spawn (address : ActorAddress) (behavior : ActorBehavior)
      (policy : Option ActorSupervisionPolicy)
  | deliver (address : ActorAddress) (m : Message)

structure Next where
  system : System
  driver : Option Driver
  base : Base
  request : Request

namespace System

def record (s : System) (e : Entry) : System := { s with log := e :: s.log }

def emitSystemEvent (s : System) (e : SystemEvent) (p : ActorAddress) : System :=
  if (s.systemEventActor.bind s.mailboxes).isSome then s.record (.event e p) else s

/-! ### `stopActor` -/

def beginStop (s : System) (p : ActorAddress) (reason : Option StopReason) : System × Call :=
  (s.emitSystemEvent .actorStopping p, .stop p reason .stoppingEvent)

def stopMailbox (s : System) (p : ActorAddress) : System :=
  match s.mailboxes p with
  | none => s
  | some box =>
    match s.boxes[box]? with
    | none => s
    | some mailbox =>
      { s with
        boxes := s.boxes.set box mailbox.stop
        mailboxes := update s.mailboxes p none
        log := mailbox.queue.map .dropped ++ s.log }

/-- The part of `stopActor` between `onStop` and the publication of the last snapshot. -/
def teardown (s : System) (p : ActorAddress) : System :=
  { s.stopMailbox p with
    processingLoops := update s.processingLoops p false
    processingActive := update s.processingActive p false
    instances := s.instances.delete p }

def forget (s : System) (p : ActorAddress) : System :=
  { s with
    behaviorHandlers := update s.behaviorHandlers p false
    actors := update s.actors p none
    originalBehaviors := update s.originalBehaviors p none
    started := update s.started p false
    restartCounts := update s.restartCounts p 0
    lastRestartTimes := update s.lastRestartTimes p 0
    policies := update s.policies p none }

def hasOnStop (s : System) (p : ActorAddress) : Bool := (s.actors p).any fun b => b.original.onStop

def advanceStop (s : System) (p : ActorAddress) (reason : Option StopReason) :
    StopStage → System × Call
  | .stoppingEvent =>
    if s.hasOnStop p then (s.record (.onStop p), .stop p reason .onStop)
    else (s.teardown p, .stop p reason .publish)
  | .onStop => (s.teardown p, .stop p reason .publish)
  | .publish => (s.forget p, .stop p reason .unregister)
  | .unregister => (s, .stop p reason .broadcast)
  | .broadcast => (s.emitSystemEvent (.actorStopped reason) p, .stop p reason .stoppedEvent)
  | .stoppedEvent => (s, .returned false)

/-! ### `spawn` -/

def beginSpawn (s : System) (p : ActorAddress) (behavior : ActorBehavior)
    (policy : Option ActorSupervisionPolicy) : System × Call :=
  if !s.running || 0 < s.maxActors && s.maxActors ≤ s.instances.keys.length then
    (s, .returned true)
  else
    ({ s with
        nextBehavior := s.nextBehavior + 1
        policies := if policy.isSome then update s.policies p policy else s.policies
        actors := update s.actors p (some ⟨s.nextBehavior, behavior⟩)
        originalBehaviors := update s.originalBehaviors p (some behavior)
        instances := s.instances.set p ()
        behaviorHandlers := update s.behaviorHandlers p true },
      .spawn p .register)

def startProcessing (s : System) (p : ActorAddress) : System :=
  { s with
    mailboxes := update s.mailboxes p (some s.boxes.length)
    boxes := s.boxes ++ [.dropping]
    started := update s.started p false
    processingLoops := update s.processingLoops p true
    processingActive := update s.processingActive p true
    invocations := s.invocations ++ [⟨.macrotask, none, .scheduled p⟩] }

def advanceSpawn (s : System) (p : ActorAddress) : SpawnStage → System × Call
  | .register => (s, .spawn p .broadcast)
  | .broadcast => ((s.startProcessing p).emitSystemEvent .actorSpawned p, .spawn p .spawnedEvent)
  | .spawnedEvent => (s, .returned false)

/-! ### `deliverMessageLocal` -/

def beginDeliver (s : System) (p : ActorAddress) (m : Message) : System × Call :=
  if (s.actors p).isSome && s.instances.has p && s.behaviorHandlers p then
    (s, .deliver p m .interceptors)
  else (s.record (.skipped m), .returned true)

def advanceDeliver (s : System) (p : ActorAddress) (m : Message) :
    DeliverStage → Outcome → System × Call
  | .interceptors, .filtered => (s.record (.filtered m), .returned false)
  | .interceptors, _ =>
    if s.started p then (s.record (.handled p m), .deliver p m .handler)
    else (s, .deliver p m .onStart)
  | .onStart, .threw => (s.record (.skipped m), .returned true)
  | .onStart, _ =>
    ({ s with started := update s.started p true, log := .handled p m :: s.log },
      .deliver p m .handler)
  | .handler, .threw => (s, .returned true)
  | .handler, _ => (s, .returned false)

/-! ### `processActorMessages` -/

def maxMessages : Nat := 100

def setActive (s : System) (p : ActorAddress) (active : Bool) : System :=
  { s with processingActive := update s.processingActive p active }

def done (s : System) : Next := ⟨s, none, .caller, .await (.returned false)⟩

/-- The message loop of `processActorMessages` up to its next await, or its end. -/
def processBatch (s : System) (p : ActorAddress) (box processed : Nat) : Next :=
  match s.boxes[box]?.bind BoundedMailbox.dequeue with
  | none => (s.setActive p false).done
  | some (m, mailbox) =>
    if s.processingLoops p then
      if processed < maxMessages then
        ⟨{ s with boxes := s.boxes.set box mailbox }, none, .processing p box processed,
          .deliver p m⟩
      else ⟨s, none, .scheduled p, .await .macrotask⟩
    else (s.setActive p false).done

def processActorMessages (s : System) (p : ActorAddress) : Next :=
  match s.mailboxes p with
  | none => (s.setActive p false).done
  | some box =>
    if s.processingLoops p then (s.setActive p true).processBatch p box 0
    else (s.setActive p false).done

/-! ### `enqueueMessage` -/

def wake (s : System) (p : ActorAddress) : System :=
  if s.processingLoops p && !s.processingActive p && (s.actors p).isSome then
    { s with
      processingActive := update s.processingActive p true
      invocations := s.invocations ++ [⟨.macrotask, none, .scheduled p⟩] }
  else s

def deliverInTestMode (s : System) (p : ActorAddress) (box : Nat) : Next :=
  if s.testMode && (s.actors p).isSome then
    match s.boxes[box]?.bind BoundedMailbox.dequeue with
    | none => s.done
    | some (m, mailbox) =>
      ⟨{ s with boxes := s.boxes.set box mailbox }, none, .testing p, .deliver p m⟩
  else s.done

def deadLetter (s : System) (m : Message) : Next :=
  done { s with deadLetters := m :: s.deadLetters }

def enqueueMessage (s : System) (p : ActorAddress) (m : Message) : Outcome → Next
  | .filtered => (s.record (.filtered m)).done
  | .missing => s.deadLetter m
  | _ =>
    match s.mailboxes p with
    | none => s.deadLetter m
    | some box =>
      match s.boxes[box]?.bind fun mailbox => mailbox.enqueue m with
      | some (mailbox, true) =>
        ({ s with boxes := s.boxes.set box mailbox }.wake p).deliverInTestMode p box
      | _ => s.deadLetter m

/-! ### Supervision -/

def groupKeyOf (s : System) (p : ActorAddress) : Option (List Char) :=
  (s.supervisors.filter fun g => p ∈ g.children).getLast?.map (·.key)

def groupOf (s : System) (key : List Char) : Option SupervisorGroupConfig :=
  (s.supervisors.filter fun g => g.key = key).getLast?

def finish (s : System) (base : Base) : Next :=
  ⟨s, some .finishing, base, .await (.returned false)⟩

def setRestarting (s : System) (group : SupervisorGroupConfig) (restarting : Bool) : System :=
  { s with restartingGroups := update s.restartingGroups group.key restarting }

def setRestarts (s : System) (p : ActorAddress) (count time : Nat) : System :=
  { s with
    restartCounts := update s.restartCounts p count
    lastRestartTimes := update s.lastRestartTimes p time }

def restartActorWithLimits (s : System) (i : Nat) (base : Base) (p : ActorAddress)
    (behavior : PureActorBehavior) : Next :=
  ⟨s.record (.backoff i p),
    some (.restarting
      { address := p, behavior
        respawnBehavior := (s.originalBehaviors p).getD behavior.original
        policy := s.policies p, count := s.restartCounts p, startedAt := s.now } .backoff),
    base, .await (.timer (s.now + backoffDelay (s.restartCounts p)))⟩

def restartSupervisorGroup (s : System) (base : Base) (group : SupervisorGroupConfig)
    (failed : ActorAddress) (stopOrder respawnOrder : List ActorAddress) : Next :=
  ⟨s.setRestarting group true,
    some (.waitingForGroup
      { group, failed, stopOrder, respawnOrder
        captured := respawnOrder.filterMap fun p =>
          (s.originalBehaviors p).map fun behavior => ⟨p, behavior, s.policies p⟩
        count := s.restartCounts failed, startedAt := s.now }),
    base, .await (.timer (s.now + backoffDelay (s.restartCounts failed)))⟩

def respawnMembers (s : System) (base : Base) (g : GroupRestart) : List ActorAddress → Next
  | [] =>
    (if (g.member g.failed).isSome then
      (s.setRestarts g.failed (g.count + 1) g.startedAt).setRestarting g.group false
    else s.setRestarting g.group false).finish base
  | p :: rest =>
    match g.member p with
    | none => s.respawnMembers base g rest
    | some m => ⟨s, some (.respawningMembers g p rest false), base, .spawn p m.behavior m.policy⟩

def stopMembers (s : System) (base : Base) (g : GroupRestart) : List ActorAddress → Next
  | [] => s.respawnMembers base g g.respawnOrder
  | p :: rest =>
    if (g.member p).isNone then s.stopMembers base g rest
    else if (s.actors p).isNone then s.stopMembers base (g.delete p) rest
    else ⟨s, some (.stoppingMembers g rest), base, .stop p (some .supervisorGroupRestart)⟩

def giveUpReason (failed : ActorAddress) (p : ActorAddress) : GiveUpReason → StopReason
  | .supervisorEscalated => .supervisorEscalated
  | .maxRestartsExceeded =>
    if p = failed then .maxRestartsExceeded else .supervisorMaxRestartsExceeded

def stopSupervisorGroup (s : System) (base : Base) (group : SupervisorGroupConfig)
    (failed : ActorAddress) (reason : GiveUpReason) : List ActorAddress → Next
  | [] =>
    ⟨s.emitSystemEvent .actorEscalated failed, some (.givenUp group), base, .await .systemEvent⟩
  | p :: rest =>
    if (s.actors p).isNone then s.stopSupervisorGroup base group failed reason rest
    else
      ⟨s, some (.givingUp group failed reason rest), base,
        .stop p (some (giveUpReason failed p reason))⟩

def decide (s : System) (p : ActorAddress) (policy : Option ActorSupervisionPolicy) : Decision :=
  resolveSupervisionDecision ⟨policy, s.restartCounts p, s.lastRestartTimes p, s.now⟩

/-- An escalating child of a widening group hands its failure to the group, within
its own restart budget. -/
def childDecision (s : System) (p : ActorAddress) (group : Option SupervisorGroupConfig) :
    Decision :=
  match s.decide p (s.policies p), group, s.policies p with
  | .escalate, some group, some policy =>
    if group.strategy = .oneForAll ∨ group.strategy = .restForOne then
      s.decide p (some { policy with strategy := .restart })
    else .escalate
  | decision, _, _ => decision

def setCount (s : System) (p : ActorAddress) : Decision → System
  | .restart count _ => { s with restartCounts := update s.restartCounts p count }
  | _ => s

def executeDecision (s : System) (i : Nat) (base : Base) (p : ActorAddress)
    (behavior : PureActorBehavior) : Decision → Next
  | .restart count limit =>
    (s.setCount p (.restart count limit)).restartActorWithLimits i base p behavior
  | .stopPermanent _ _ => ⟨s, some .finishing, base, .stop p (some .maxRestartsExceeded)⟩
  | .stop => ⟨s, some .finishing, base, .stop p (some .supervisionStop)⟩
  | .escalate => ⟨s, some (.escalating p), base, .stop p none⟩
  | .resume => ⟨s.emitSystemEvent .actorResumed p, some .finishing, base, .await .systemEvent⟩

def applySupervisionStrategy (s : System) (i : Nat) (base : Base) (p : ActorAddress) : Next :=
  if (s.groupKeyOf p).any s.restartingGroups then s.finish base
  else
    match s.actors p with
    | none => s.finish base
    | some behavior =>
      let group := (s.groupKeyOf p).bind s.groupOf
      match group, resolveTreeSupervisionDecision (s.childDecision p group) group p with
      | some group, .restartGroup stopOrder respawnOrder =>
        (s.setCount p (s.childDecision p (some group))).restartSupervisorGroup base group p
          stopOrder respawnOrder
      | some group, .giveUpGroup stopOrder reason =>
        (s.setRestarting group true).stopSupervisorGroup base group p reason stopOrder
      | _, _ => s.executeDecision i base p behavior (s.decide p (s.policies p))

/-! ### Continuations -/

def resumeRestart (s : System) (i : Nat) (base : Base) (r : Restart) (threw : Bool) :
    RestartStage → Next
  | .backoff =>
    ⟨s.record (.backoffOver i r.address), some (.restarting r .stop), base,
      .stop r.address (some .supervisorRestart)⟩
  | .stop =>
    ⟨s.record (.respawn i r.address), some (.restarting r .spawn), base,
      .spawn r.address r.respawnBehavior r.policy⟩
  | .spawn =>
    if threw then
      ⟨s.emitSystemEvent .actorRespawnFailed r.address, some .finishing, base, .await .systemEvent⟩
    else
      ⟨(s.setRestarts r.address (r.count + 1) r.startedAt).emitSystemEvent .actorRestarted r.address,
        some .finishing, base, .await .systemEvent⟩

def resumeDriver (s : System) (i : Nat) (base : Base) (threw : Bool) : Driver → Next
  | .finishing =>
    match base with
    | .processing p box processed => s.processBatch p box processed
    | _ => s.done
  | .escalating p =>
    ⟨s.emitSystemEvent .actorEscalated p, some .finishing, base, .await .systemEvent⟩
  | .restarting r stage => s.resumeRestart i base r threw stage
  | .waitingForGroup g => s.stopMembers base g g.stopOrder
  | .stoppingMembers g rest => s.stopMembers base g rest
  | .respawningMembers g p rest emitted =>
    if threw || emitted then s.respawnMembers base g rest
    else
      ⟨s.emitSystemEvent .actorRestarted p, some (.respawningMembers g p rest true), base,
        .await .systemEvent⟩
  | .givingUp group failed reason rest => s.stopSupervisorGroup base group failed reason rest
  | .givenUp group => (s.setRestarting group false).finish base

def resume (s : System) (i : Nat) (threw : Bool) : Option Driver → Base → Option Next
  | some driver, base => some (s.resumeDriver i base threw driver)
  | none, .processing p box processed =>
    if threw then some (s.applySupervisionStrategy i (.processing p box processed) p)
    else some (s.processBatch p box (processed + 1))
  | none, .testing p => if threw then some (s.applySupervisionStrategy i .caller p) else some s.done
  | none, _ => none

def next (s : System) (i : Nat) (o : Outcome) (v : Invocation) : Option Next :=
  match v.call with
  | .returned threw => s.resume i threw v.driver v.base
  | .macrotask =>
    match v.base with
    | .scheduled p => some (s.processActorMessages p)
    | _ => none
  | .enqueue p m => some (s.enqueueMessage p m o)
  | .dequeued p m => some ⟨s, none, .caller, .deliver p m⟩
  | .timer due =>
    if due ≤ s.now then some ⟨s, v.driver, v.base, .await (.returned false)⟩ else none
  | .systemEvent => some ⟨s, v.driver, v.base, .await (.returned false)⟩
  | .stop p reason stage =>
    some ⟨(s.advanceStop p reason stage).1, v.driver, v.base,
      .await (s.advanceStop p reason stage).2⟩
  | .spawn p stage =>
    some ⟨(s.advanceSpawn p stage).1, v.driver, v.base, .await (s.advanceSpawn p stage).2⟩
  | .deliver p m stage =>
    some ⟨(s.advanceDeliver p m stage o).1, v.driver, v.base,
      .await (s.advanceDeliver p m stage o).2⟩

def perform (s : System) : Request → System × Call
  | .await call => (s, call)
  | .stop p reason => s.beginStop p reason
  | .spawn p behavior policy => s.beginSpawn p behavior policy
  | .deliver p m => s.beginDeliver p m

def invoke (s : System) (request : Request) : System :=
  { (s.perform request).1 with
    invocations := (s.perform request).1.invocations ++ [⟨(s.perform request).2, none, .caller⟩] }

end System

def Next.settle (n : Next) (i : Nat) : System :=
  { (n.system.perform n.request).1 with
    invocations := (n.system.perform n.request).1.invocations.set i
      ⟨(n.system.perform n.request).2, n.driver, n.base⟩ }

inductive Action
  | tick (ms : Nat)
  | setTestMode (enabled : Bool)
  | setSystemEventActor (address : ActorAddress)
  | spawn (address : ActorAddress) (behavior : ActorBehavior)
      (policy : Option ActorSupervisionPolicy)
  | stop (address : ActorAddress)
  | stopInternal (address : ActorAddress)
  | stopSystem
  | enqueueMessage (address : ActorAddress)
  | processNextMessage (address : ActorAddress)
  | advance (i : Nat) (o : Outcome)

def step (s : System) : Action → Option System
  | .tick ms => some { s with now := s.now + ms }
  | .setTestMode enabled => some { s with testMode := enabled }
  | .setSystemEventActor p => some { s with systemEventActor := some p }
  | .spawn p behavior policy => some (s.invoke (.spawn p behavior policy))
  | .stop p => some ((s.record (.userStop p)).invoke (.stop p none))
  | .stopInternal p =>
    if (s.actors p).isSome then some ((s.record (.userStop p)).invoke (.stop p none)) else none
  | .stopSystem => some { s with running := false }
  | .enqueueMessage p =>
    some ({ s with given := ⟨s.given.length, p⟩ :: s.given }.invoke
      (.await (.enqueue p ⟨s.given.length, p⟩)))
  | .processNextMessage p =>
    match (s.mailboxes p).bind fun box => (s.boxes[box]?.bind BoundedMailbox.dequeue).map (box, ·) with
    | none => none
    | some (box, m, mailbox) =>
      some ({ s with boxes := s.boxes.set box mailbox }.invoke (.await (.dequeued p m)))
  | .advance i o => s.invocations[i]?.bind fun v => (s.next i o v).map fun n => n.settle i

end ActorWeb.ActorSystem
