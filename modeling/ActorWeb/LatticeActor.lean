import ActorWeb.LatticeArtifacts
import ActorWeb.Transition

namespace ActorWeb.Lattice

open JsText

inductive ActivationStatus
  | pending | delivered | acknowledged
deriving DecidableEq

structure LatticeActivationRecord where
  (activationId dependencyId actorKey lattice satisfactionKey : String)
  artifacts : List ArtifactRecord
  status : ActivationStatus
  attempts : Nat
  createdAt : Int
  (deliveredAt nextTimeoutAt acknowledgedAt : Option Int)
deriving DecidableEq

abbrev DeliveredKeys := OrderedMap String (List String)

structure LatticeState where
  latticeId : String
  timeoutMs : Int
  artifacts : List ArtifactRecord
  dependencies : List RegisteredDependency
  activations : List LatticeActivationRecord
  journalVersion : Nat
  deliveredSatisfactionKeys : DeliveredKeys

inductive LatticeMessage
  | publishArtifact (artifact : ArtifactInput)
  | registerDependency (dependency : DependencyInput) (registeredAt : Option Int)
  | withdrawDependency (dependencyId : String)
  | ackActivation (activationId : String) (acknowledgedAt : Option Int)
  | queryArtifacts (query : ArtifactQuery)
  | checkActivationTimeouts (now : Int)

inductive LatticeEvent
  | artifactPublished (artifact : ArtifactRecord)
  | dependencySatisfied (activationId dependencyId actorKey lattice satisfactionKey : String)
      (artifacts : List ArtifactRecord)
  | activationTimedOut (activationId dependencyId actorKey lattice : String) (timedOutAt : Int)
deriving DecidableEq

inductive LatticeJournalEvent
  | artifactPublished (artifact : ArtifactRecord)
  | dependencyRegistered (dependency : RegisteredDependency) (registeredAt : Option Int)
  | dependencyWithdrawn (dependencyId : String)
  | activationAcknowledged (activationId : String) (acknowledgedAt : Int)

structure LatticeReductionResult where
  state : LatticeState
  emit : List LatticeEvent
  journalEvents : List LatticeJournalEvent
  reply : Option (List ArtifactRecord)

def createLatticeState (latticeId : String) (timeoutMs : Option Int) : LatticeState where
  latticeId := latticeId
  timeoutMs := timeoutMs.getD 30000
  artifacts := []
  dependencies := []
  activations := []
  journalVersion := 0
  deliveredSatisfactionKeys := .empty

def activationIdFor (dependencyId satisfactionKey : String) : String :=
  "activation:" ++ dependencyId ++ ":" ++ encodeURIComponent satisfactionKey

def nullaryPrototype : List String := ["toString", "valueOf", "toLocaleString"]

section Delivery

variable (deliveredKeys : DeliveredKeys)

def appendDeliveredKey (dependencyId satisfactionKey : String) :
    Option DeliveredKeys :=
  match deliveredKeys.property dependencyId with
  | .own existing =>
    some (if satisfactionKey ∈ existing then deliveredKeys
      else deliveredKeys.set dependencyId (existing ++ [satisfactionKey]))
  | .missing => some (deliveredKeys.set dependencyId [satisfactionKey])
  | .inherited => none

def resetDependencyActivationState (state : LatticeState) (dependencyId : String) : LatticeState :=
  { state with
    activations := state.activations.filter fun activation => activation.dependencyId ≠ dependencyId
    deliveredSatisfactionKeys := state.deliveredSatisfactionKeys.delete dependencyId }

def shouldEmitSatisfaction (dependency : RegisteredDependency)
    (satisfactionKey : String) : Option Bool :=
  match deliveredKeys.property dependency.dependencyId, dependency.mode with
  | .own keys, .once => some (keys.length = 0)
  | .own keys, .everyVersion => some (satisfactionKey ∉ keys)
  | .missing, _ => some true
  | .inherited, .once => some (dependency.dependencyId ∈ nullaryPrototype)
  | .inherited, .everyVersion => none

def pendingActivation (dependency : RegisteredDependency) (satisfaction : DependencySatisfaction)
    (now : Int) : LatticeActivationRecord where
  activationId := activationIdFor dependency.dependencyId satisfaction.satisfactionKey
  dependencyId := dependency.dependencyId
  actorKey := dependency.actorKey
  lattice := dependency.lattice
  satisfactionKey := satisfaction.satisfactionKey
  artifacts := satisfaction.artifacts
  status := .pending
  attempts := 0
  createdAt := now
  deliveredAt := none
  nextTimeoutAt := none
  acknowledgedAt := none

variable (t : Texts)

def queueSatisfactionActivation (now : Int) (nextState : LatticeState)
    (dependency : RegisteredDependency) : Option LatticeState :=
  match evaluateDependencySatisfaction t nextState.artifacts dependency with
  | none => some nextState
  | some satisfaction => do
    let emits ← shouldEmitSatisfaction nextState.deliveredSatisfactionKeys dependency
      satisfaction.satisfactionKey
    let activation := pendingActivation dependency satisfaction now
    let existing := nextState.activations.find? fun other =>
      other.activationId = activation.activationId
    if emits = false ∨ existing.any (fun other => other.status ≠ .acknowledged) then
      some nextState
    else some { nextState with activations := nextState.activations ++ [activation] }

def queueSatisfactionActivations (state : LatticeState) (dependencies : List RegisteredDependency)
    (now : Int) : Option LatticeState :=
  dependencies.foldlM (queueSatisfactionActivation t now) state

def deliver (timeoutMs now : Int) (activation : LatticeActivationRecord) :
    LatticeActivationRecord :=
  { activation with
    status := .delivered
    attempts := activation.attempts + 1
    deliveredAt := some now
    nextTimeoutAt := some (now + timeoutMs) }

def satisfied (activation : LatticeActivationRecord) : LatticeEvent :=
  .dependencySatisfied activation.activationId activation.dependencyId activation.actorKey
    activation.lattice activation.satisfactionKey activation.artifacts

def deliveredKeysAfter (activations : List LatticeActivationRecord) :
    Option DeliveredKeys :=
  (activations.filter fun activation => activation.status = .pending).foldlM
    (fun keys activation => appendDeliveredKey keys activation.dependencyId
      activation.satisfactionKey) deliveredKeys

structure Delivery where
  state : LatticeState
  emit : List LatticeEvent

def deliverPendingActivations (state : LatticeState) (now : Int) : Option Delivery :=
  (deliveredKeysAfter state.deliveredSatisfactionKeys state.activations).map fun keys =>
    { state :=
        { state with
          activations := state.activations.map fun activation =>
            if activation.status = .pending then deliver state.timeoutMs now activation
            else activation
          deliveredSatisfactionKeys := keys }
      emit := (state.activations.filter fun activation => activation.status = .pending).map
        satisfied }

def queueAndDeliver (state : LatticeState) (dependencies : List RegisteredDependency) (now : Int) :
    Option Delivery :=
  (queueSatisfactionActivations t state dependencies now).bind fun queued =>
    deliverPendingActivations queued now

end Delivery

section Reduction

variable (t : Texts)

def impactedDependencies (dependencies : List RegisteredDependency) (artifact : ArtifactRecord) :
    List RegisteredDependency :=
  dependencies.filter fun dependency =>
    dependency.requires.any fun matcher => matcher.type = artifact.type

variable (state : LatticeState)

def withArtifact (artifact : ArtifactRecord) : LatticeState :=
  { state with artifacts := state.artifacts ++ [artifact] }

def withDependency (dependency : RegisteredDependency) : LatticeState :=
  { state with
    dependencies := sortBy (fun left right =>
        t.localeCompare (dependencyKey t left) (dependencyKey t right))
      ((state.dependencies.filter fun candidate =>
        candidate.dependencyId ≠ dependency.dependencyId) ++ [dependency]) }

def withoutDependency (dependencyId : String) : LatticeState :=
  { state with
    dependencies := state.dependencies.filter fun dependency =>
      dependency.dependencyId ≠ dependencyId }

def acknowledge (activationId : String) (acknowledgedAt : Int)
    (activation : LatticeActivationRecord) : LatticeActivationRecord :=
  if activation.activationId = activationId then
    { activation with
      status := .acknowledged
      acknowledgedAt := some acknowledgedAt
      nextTimeoutAt := none }
  else activation

def withAcknowledgement (activationId : String) (acknowledgedAt : Int) :
    LatticeState :=
  { state with activations := state.activations.map (acknowledge activationId acknowledgedAt) }

def counted : LatticeState :=
  { state with journalVersion := state.journalVersion + 1 }

def applyJournalEvent : LatticeJournalEvent → Option LatticeState
  | .artifactPublished artifact =>
    let withArtifact := counted (withArtifact state artifact)
    (queueAndDeliver t withArtifact (impactedDependencies withArtifact.dependencies artifact)
      artifact.publishedAt).map Delivery.state
  | .dependencyRegistered dependency registeredAt =>
    let reset := resetDependencyActivationState (counted (withDependency t state dependency))
      dependency.dependencyId
    (queueAndDeliver t reset [dependency] (registeredAt.getD 0)).map Delivery.state
  | .dependencyWithdrawn dependencyId =>
    some (resetDependencyActivationState (counted (withoutDependency state dependencyId))
      dependencyId)
  | .activationAcknowledged activationId acknowledgedAt =>
    some (counted (withAcknowledgement state activationId acknowledgedAt))

def dueActivations (now : Int) : List LatticeActivationRecord :=
  state.activations.filter fun activation => activation.status = .delivered &&
    activation.nextTimeoutAt.any fun next => ¬ now < next

def timedOut (now : Int) (activation : LatticeActivationRecord) : LatticeEvent :=
  .activationTimedOut activation.activationId activation.dependencyId activation.actorKey
    activation.lattice now

def markPending (activations : List LatticeActivationRecord) (due : LatticeActivationRecord) :
    List LatticeActivationRecord :=
  activations.map fun candidate =>
    if candidate.activationId = due.activationId then { candidate with status := .pending }
    else candidate

def evaluateActivationTimeouts (now : Int) : Option Delivery :=
  (deliverPendingActivations
      { state with activations := (dueActivations state now).foldl markPending state.activations }
      now).map fun redelivered =>
    { redelivered with emit := (dueActivations state now).map (timedOut now) ++ redelivered.emit }

def unchanged : LatticeReductionResult where
  state := state
  emit := []
  journalEvents := []
  reply := none

def Delivery.journaled (delivery : Delivery) (event : LatticeJournalEvent) :
    LatticeReductionResult where
  state := delivery.state
  emit := delivery.emit
  journalEvents := [event]
  reply := none

def reduceLatticeMessage : LatticeMessage → Option LatticeReductionResult
  | .queryArtifacts query =>
    some { unchanged state with reply := some (queryArtifacts t state.artifacts query) }
  | .checkActivationTimeouts now =>
    (evaluateActivationTimeouts state now).map fun delivery =>
      { unchanged delivery.state with emit := delivery.emit }
  | .registerDependency dependency registeredAt =>
    let dependency := createRegisteredDependency t dependency
    let reset := resetDependencyActivationState (withDependency t state dependency)
      dependency.dependencyId
    (queueAndDeliver t reset [dependency] (registeredAt.getD 0)).map fun delivered =>
      delivered.journaled (.dependencyRegistered dependency (some (registeredAt.getD 0)))
  | .withdrawDependency dependencyId =>
    some
      { unchanged (resetDependencyActivationState (withoutDependency state dependencyId)
          dependencyId) with journalEvents := [.dependencyWithdrawn dependencyId] }
  | .ackActivation activationId acknowledgedAt =>
    match state.activations.find? fun activation => activation.activationId = activationId with
    | none => some (unchanged state)
    | some current =>
      if current.status = .acknowledged then some (unchanged state)
      else
        let acknowledgedAt := acknowledgedAt.getD (current.deliveredAt.getD current.createdAt)
        some
          { unchanged (withAcknowledgement state activationId acknowledgedAt) with
            journalEvents := [.activationAcknowledged activationId acknowledgedAt] }
  | .publishArtifact artifact =>
    match publishArtifact t state.artifacts artifact with
    | none => some (unchanged state)
    | some artifact =>
      let withArtifact := withArtifact state artifact
      (queueAndDeliver t withArtifact (impactedDependencies withArtifact.dependencies artifact)
        artifact.publishedAt).map fun delivered =>
          { delivered.journaled (.artifactPublished artifact) with
            emit := .artifactPublished artifact :: delivered.emit }

end Reduction

section Journal

structure BaseEvent where
  actorId : String
  version : Nat
  data : LatticeJournalEvent

abbrev EventStore := String → List BaseEvent

def numbered : Nat → List BaseEvent → Bool
  | _, [] => true
  | expected, event :: events => event.version = expected + 1 && numbered (expected + 1) events

variable (store : EventStore)

def EventStore.append (actorId : String) (events : List BaseEvent)
    (expectedVersion : Nat) : Option EventStore :=
  if (store actorId).length = expectedVersion ∧ numbered expectedVersion events then
    some (Function.update store actorId (store actorId ++ events))
  else none

def EventStore.getEvents (actorId : String) (fromVersion : Nat) :
    List BaseEvent :=
  (store actorId).drop fromVersion

variable (streamId : String)

def toBaseEvent (event : LatticeJournalEvent) (version : Nat) : BaseEvent :=
  ⟨streamId, version, event⟩

/-- The `append` of `createEventStoreLatticeJournal`: the store and the next version. -/
def journalAppend (events : List LatticeJournalEvent)
    (expectedVersion : Nat) : Option (EventStore × Nat) :=
  (store.append streamId (events.mapIdx fun index event =>
      toBaseEvent streamId event (expectedVersion + index + 1)) expectedVersion).map fun store =>
    (store, expectedVersion + events.length)

def journalReplay : List LatticeJournalEvent :=
  (store.getEvents streamId 0).map BaseEvent.data

variable (t : Texts)

def replayLatticeState (latticeId : String) (store : EventStore) (timeoutMs : Option Int) :
    Option LatticeState :=
  (journalReplay store latticeId).foldlM (applyJournalEvent t) (createLatticeState latticeId timeoutMs)

end Journal

section Actor

structure LatticeOptions where
  latticeId : String
  timeoutMs : Option Int

structure LatticeContext where
  object : Nat
  state : LatticeState

/-- A lattice actor with its journal and what it has emitted. Objects are numbered as they are
made: the first one is the context the behaviour is defined with. -/
structure LatticeActor where
  context : LatticeContext
  hydratedContexts : List Nat
  objects : Nat
  store : EventStore
  emitted : List LatticeEvent

namespace LatticeActor

variable (t : Texts) (options : LatticeOptions)

def initialContext : LatticeContext :=
  ⟨0, createLatticeState options.latticeId options.timeoutMs⟩

def start (store : EventStore) : LatticeActor where
  context := initialContext options
  hydratedContexts := []
  objects := 1
  store := store
  emitted := []

variable (a : LatticeActor)

/-- The actor is given its initial context again. What the behaviour remembers stays. -/
def restart : LatticeActor := { a with context := initialContext options }

def hydrate (replayFails : Bool) : Option (LatticeContext × LatticeActor) :=
  if a.context.object ∈ a.hydratedContexts then some (a.context, a)
  else if replayFails then none
  else
    (replayLatticeState t options.latticeId a.store options.timeoutMs).map fun replayedState =>
      (⟨a.objects, replayedState⟩,
        { a with hydratedContexts := a.objects :: a.hydratedContexts, objects := a.objects + 1 })

def commit (nextState : LatticeState) (store : EventStore)
    (emit : List LatticeEvent) : LatticeActor where
  context := ⟨a.objects, nextState⟩
  hydratedContexts := a.objects :: a.hydratedContexts
  objects := a.objects + 1
  store := store
  emitted := a.emitted ++ emit

/-- The message that is reduced: a registration without a time gets the time of the clock. -/
def shellMessage (clock : Int) : LatticeMessage → LatticeMessage
  | .registerDependency dependency none => .registerDependency dependency (some clock)
  | message => message

/-- `onMessage`, up to the point where it throws: the actor, and whether the message was handled.
A reduction that returns the state it was given has its context named anew. -/
def onMessage (message : LatticeMessage) (clock : Int)
    (replayFails appendFails : Bool) : LatticeActor × Bool :=
  match a.hydrate t options replayFails with
  | none => (a, false)
  | some (hydratedContext, noted) =>
    match reduceLatticeMessage t hydratedContext.state (shellMessage clock message) with
    | none => (noted, false)
    | some result =>
      if result.journalEvents = [] then (noted.commit result.state a.store result.emit, true)
      else if appendFails then (noted, false)
      else
        match journalAppend a.store hydratedContext.state.latticeId result.journalEvents
          hydratedContext.state.journalVersion with
        | none => (noted, false)
        | some (store, nextVersion) =>
          (noted.commit { result.state with journalVersion := nextVersion } store result.emit,
            true)

inductive Action
  | message (message : LatticeMessage) (clock : Int) (replayFails appendFails : Bool)
  | restart

def step : Action → Option LatticeActor
  | .message message clock replayFails appendFails =>
    some (a.onMessage t options message clock replayFails appendFails).1
  | .restart => some (a.restart options)

end LatticeActor

end Actor

end ActorWeb.Lattice
