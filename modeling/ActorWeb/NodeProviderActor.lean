import ActorWeb.EffectJournal
import ActorWeb.JsText

namespace ActorWeb

open JsText

abbrev ChildProcessHandle := NonEmptyString

abbrev ProviderLifecycleActivationKey := NonEmptyString

abbrev ProviderLifecycleAcquisitionKey := NonEmptyString

inductive NodeProviderLifecycleEffectKind
  | duplicatePrevention
  | spawn
  | signal
  | readiness
  | filesystemProbe
  | modelCacheInspect
  | cancellation
deriving DecidableEq

def NodeProviderLifecycleEffectKind.text : NodeProviderLifecycleEffectKind → String
  | .duplicatePrevention => "duplicate_prevention"
  | .spawn => "spawn"
  | .signal => "signal"
  | .readiness => "readiness"
  | .filesystemProbe => "filesystem_probe"
  | .modelCacheInspect => "model_cache_inspect"
  | .cancellation => "cancellation"

inductive NodeProviderLifecycleFailureCode
  | invalidRequest
  | missingExecutable
  | portConflict
  | startupTimeout
  | cancelled
  | duplicate
  | alreadyRunning
  | exited
  | crashed
  | readinessFailed
  | signalFailed
  | outputBackpressure
  | tailFailed
deriving DecidableEq

structure NodeProviderLifecycleFailure where
  code : NodeProviderLifecycleFailureCode
  message : String
  retryable : Bool
deriving DecidableEq

inductive CancellationRequester
  | operator | runtime | host
deriving DecidableEq

inductive CancellationReason
  | activationReplaced | shutdownRequested | readinessFailed | duplicateDetected
deriving DecidableEq

def CancellationReason.text : CancellationReason → String
  | .activationReplaced => "activation_replaced"
  | .shutdownRequested => "shutdown_requested"
  | .readinessFailed => "readiness_failed"
  | .duplicateDetected => "duplicate_detected"

structure ProviderLifecycleCancellationFact where
  requestedBy : CancellationRequester
  reason : CancellationReason
  requestedAt : String
  activationKey : Option ProviderLifecycleActivationKey
deriving DecidableEq

/-- The results of the journaled effects, told apart by their `outcome`. A `failed`
readiness check may say when it, the exit or the cancellation was observed. -/
inductive NodeProviderActorEffectResult
  | claimed
  | alreadyRunning (handle : ChildProcessHandle) (detectedAt : String)
  | duplicate (handle : ChildProcessHandle) (detectedAt : String)
  | error (failure : NodeProviderLifecycleFailure)
  | spawned (handle : ChildProcessHandle) (startedAt : String)
  | reused (handle : ChildProcessHandle) (startedAt : String)
  | failed (failure : NodeProviderLifecycleFailure) (fact exit cancellation : Option String)
  | signaled (observedAt : String)
  | missing
  | ready (observedAt : String)
  | waiting (observedAt : String)
  | probed
  | inspected
  | cancelled (fact : ProviderLifecycleCancellationFact)
deriving DecidableEq

inductive ExitOutcome
  | exited | crashed | cancelled

inductive ChildProcessObserveExitResult
  | running
  | ended (outcome : ExitOutcome) (observedAt : String)
  | error (failure : NodeProviderLifecycleFailure)

structure NodeProviderActorOutputProjection where
  lines : List String
  truncated : Bool
  totalCaptured : Nat

inductive ChildProcessTailOutputResult
  | tailed (stdout stderr : NodeProviderActorOutputProjection)
  | failed (failure : NodeProviderLifecycleFailure)

inductive NodeProviderActorStatus
  | idle | starting | running | stopping | failed
deriving DecidableEq

structure NodeProviderActorProjection where
  status : NodeProviderActorStatus
  activationKey : Option ProviderLifecycleActivationKey
  acquisitionKey : Option ProviderLifecycleAcquisitionKey
  handle : Option ChildProcessHandle
  endpoint : Option String
  ready : Bool
  failure : Option NodeProviderLifecycleFailure
  restartCount : Nat
  (idleSince idleDeadline : Option String)
  (stdoutTail stderrTail : NodeProviderActorOutputProjection)
  lastObservedAt : Option String

inductive NodeProviderActorCommand
  | acquireProvider (activationKey : ProviderLifecycleActivationKey)
      (acquisitionKey : ProviderLifecycleAcquisitionKey)
  | cancelProvider (requestedBy : Option CancellationRequester) (reason : Option CancellationReason)
  | checkProviderReadiness
  | releaseProvider (acquisitionKey : Option ProviderLifecycleAcquisitionKey)
  | tickIdleShutdown
  | observeProviderExit

/-- What the clock port reads while one stretch of code without an await runs. -/
structure NodeProviderActorClock where
  nowIso : String
  nowMs : Int

structure NodeProviderActorOptions where
  (provider endpoint readinessTarget : String)
  (startupTimeoutMs idleShutdownMs : Int)
  (filesystemProbeTarget modelCacheKey : String)

def emptyOutputProjection : NodeProviderActorOutputProjection :=
  { lines := [], truncated := false, totalCaptured := 0 }

def createInitialProjection : NodeProviderActorProjection :=
  { status := .idle
    activationKey := none
    acquisitionKey := none
    handle := none
    endpoint := none
    ready := false
    failure := none
    restartCount := 0
    idleSince := none
    idleDeadline := none
    stdoutTail := emptyOutputProjection
    stderrTail := emptyOutputProjection
    lastObservedAt := none }

def projectFailure (projection : NodeProviderActorProjection)
    (failure : NodeProviderLifecycleFailure) (observedAt : Option String) :
    NodeProviderActorProjection :=
  { projection with
    status := .failed
    ready := false
    failure := some failure
    idleSince := none
    idleDeadline := none
    lastObservedAt := observedAt }

def createActorFailure (code : NodeProviderLifecycleFailureCode) (message : String) :
    NodeProviderLifecycleFailure :=
  { code, message, retryable := false }

inductive JournaledEffectResult
  | recorded (result : NodeProviderActorEffectResult) (replayed : Bool)
  | error (failure : NodeProviderLifecycleFailure)

/-- The parameters of `runEffect`. `computed` is the result of a `perform` that calls no port. -/
structure EffectCall where
  kind : NodeProviderLifecycleEffectKind
  operationKey : String
  activationKey : Option ProviderLifecycleActivationKey
  acquisitionKey : Option ProviderLifecycleAcquisitionKey
  handle : Option ChildProcessHandle
  target : Option String
  computed : Option NodeProviderActorEffectResult

/-- The `await runEffect` that a command is at. -/
inductive EffectAwait
  | acquireFilesystem (activationKey : ProviderLifecycleActivationKey)
      (acquisitionKey : ProviderLifecycleAcquisitionKey)
  | acquireModelCache (activationKey : ProviderLifecycleActivationKey)
      (acquisitionKey : ProviderLifecycleAcquisitionKey)
  | acquireDuplicate (activationKey : ProviderLifecycleActivationKey)
      (acquisitionKey : ProviderLifecycleAcquisitionKey)
  | acquireSpawn
  | readiness
  | readinessFailedCancellation (handle : ChildProcessHandle)
  | readinessFailedSignal
  | cancellation (reason : CancellationReason)
  | cancellationSignal
  | idleShutdownSignal (shutdownRequestedAt : String)

inductive Suspension
  | effect (call : EffectCall) (await : EffectAwait)
  | observeExit (handle : ChildProcessHandle)
  | tailOutput (handle : ChildProcessHandle) (outcome : ExitOutcome) (observedAt : String)
  | captured (handle : ChildProcessHandle) (outcome : ExitOutcome) (observedAt : String)
      (tailFailure : Option NodeProviderLifecycleFailure)

inductive Answer
  | effect (result : JournaledEffectResult)
  | exit (result : ChildProcessObserveExitResult)
  | tail (result : ChildProcessTailOutputResult)
  | captured

structure NodeProviderActor where
  projection : NodeProviderActorProjection
  readinessAttempts : Nat
  startupStartedAtMs : Option Int

namespace NodeProviderActor

def create : NodeProviderActor :=
  { projection := createInitialProjection, readinessAttempts := 0, startupStartedAtMs := none }

variable (options : NodeProviderActorOptions) (clock : NodeProviderActorClock)
  (p : NodeProviderActor)

def fail (failure : NodeProviderLifecycleFailure) (observedAt : Option String) :
    NodeProviderActor × Option Suspension :=
  ({ p with projection := projectFailure p.projection failure observedAt }, none)

def runEffect (call : EffectCall) (await : EffectAwait) : NodeProviderActor × Option Suspension :=
  (p, some (.effect call await))

def acquireProvider (activationKey : ProviderLifecycleActivationKey)
      (acquisitionKey : ProviderLifecycleAcquisitionKey) :
    NodeProviderActor × Option Suspension :=
  let started :=
    { p with
      projection :=
        { p.projection with
          activationKey := some activationKey
          acquisitionKey := some acquisitionKey
          endpoint := some options.endpoint
          failure := none
          idleSince := none
          idleDeadline := none
          lastObservedAt := some clock.nowIso } }
  started.runEffect
    { kind := .filesystemProbe
      operationKey := "filesystem:" ++ options.filesystemProbeTarget
      activationKey := some activationKey
      acquisitionKey := some acquisitionKey
      handle := none
      target := some options.filesystemProbeTarget
      computed := none }
    (.acquireFilesystem activationKey acquisitionKey)

def acquireModelCache (activationKey : ProviderLifecycleActivationKey)
      (acquisitionKey : ProviderLifecycleAcquisitionKey) :
    NodeProviderActor × Option Suspension :=
  p.runEffect
    { kind := .modelCacheInspect
      operationKey := "cache:" ++ options.modelCacheKey
      activationKey := some activationKey
      acquisitionKey := some acquisitionKey
      handle := none
      target := none
      computed := none }
    (.acquireModelCache activationKey acquisitionKey)

def acquireDuplicate (activationKey : ProviderLifecycleActivationKey)
      (acquisitionKey : ProviderLifecycleAcquisitionKey) :
    NodeProviderActor × Option Suspension :=
  p.runEffect
    { kind := .duplicatePrevention
      operationKey := "acquire:" ++ activationKey.value ++ ":" ++ acquisitionKey.value
      activationKey := some activationKey
      acquisitionKey := some acquisitionKey
      handle := none
      target := none
      computed := none }
    (.acquireDuplicate activationKey acquisitionKey)

def acquireSpawn (activationKey : ProviderLifecycleActivationKey)
      (acquisitionKey : ProviderLifecycleAcquisitionKey) :
    NodeProviderActor × Option Suspension :=
  p.runEffect
    { kind := .spawn
      operationKey := "spawn:" ++ activationKey.value ++ ":" ++ acquisitionKey.value
      activationKey := some activationKey
      acquisitionKey := some acquisitionKey
      handle := none
      target := none
      computed := none }
    .acquireSpawn

def acquireClaimed (activationKey : ProviderLifecycleActivationKey)
      (acquisitionKey : ProviderLifecycleAcquisitionKey) :
    NodeProviderActorEffectResult → NodeProviderActor × Option Suspension
  | .alreadyRunning handle detectedAt =>
    ({ projection :=
        { p.projection with
          status := .running
          handle := some handle
          ready := true
          failure := none
          idleSince := none
          lastObservedAt := some detectedAt }
       readinessAttempts := 0
       startupStartedAtMs := none }, none)
  | .duplicate handle detectedAt =>
    ({ p with
        projection :=
          { p.projection with
            status := if p.projection.handle.isSome then p.projection.status else .starting
            handle := some handle
            failure := some (createActorFailure .duplicate
              "Provider acquisition was already in progress or already satisfied.")
            lastObservedAt := some detectedAt } }, none)
  | .error failure => p.fail failure (some clock.nowIso)
  | _ => p.acquireSpawn activationKey acquisitionKey

variable (handle : ChildProcessHandle)

def acquireStarted (startedAt : String) : NodeProviderActor × Option Suspension :=
  ({ projection :=
      { p.projection with
        status := .starting
        handle := some handle
        endpoint := some options.endpoint
        ready := false
        failure := none
        idleSince := none
        idleDeadline := none
        lastObservedAt := some startedAt }
     readinessAttempts := 0
     startupStartedAtMs := some clock.nowMs }, none)

/-- `acquireProvider` with the answer of `spawn`; a result without a process throws. -/
def acquireSpawned : NodeProviderActorEffectResult → NodeProviderActor × Option Suspension
  | .failed failure _ _ _ => p.fail failure (some clock.nowIso)
  | .spawned handle startedAt | .reused handle startedAt =>
    p.acquireStarted options clock handle startedAt
  | _ => (p, none)

def cancellationCall (requestedBy : CancellationRequester) (reason : CancellationReason) :
    EffectCall :=
  { kind := .cancellation
    operationKey := "cancellation:" ++ reason.text ++ ":" ++ templateText p.projection.handle
    activationKey := p.projection.activationKey
    acquisitionKey := p.projection.acquisitionKey
    handle := p.projection.handle
    target := none
    computed := some (.cancelled
      { requestedBy
        reason
        requestedAt := clock.nowIso
        activationKey := p.projection.activationKey }) }

def signalCall (operation : String) (handle : Option ChildProcessHandle) : EffectCall :=
  { kind := .signal
    operationKey := operation
    activationKey := p.projection.activationKey
    acquisitionKey := p.projection.acquisitionKey
    handle
    target := none
    computed := none }

def failReadinessAndSignal (failure : NodeProviderLifecycleFailure) (observedAt : Option String) :
    NodeProviderActor × Option Suspension :=
  let failed :=
    { p with projection := projectFailure p.projection failure observedAt, startupStartedAtMs := none }
  match p.projection.handle with
  | none => (failed, none)
  | some handle =>
    failed.runEffect (failed.cancellationCall clock .runtime .readinessFailed)
      (.readinessFailedCancellation handle)

def checkReadiness : NodeProviderActor × Option Suspension :=
  if p.projection.handle = none ∨ p.projection.status = .idle ∨
      p.projection.status = .failed then (p, none)
  else if p.projection.ready = false ∧
      p.startupStartedAtMs.any fun startedAt => options.startupTimeoutMs ≤ clock.nowMs - startedAt then
    p.failReadinessAndSignal clock
      (createActorFailure .startupTimeout
        "Provider readiness did not complete before the configured timeout.") (some clock.nowIso)
  else
    let next := { p with readinessAttempts := p.readinessAttempts + 1 }
    next.runEffect
      { kind := .readiness
        operationKey := "readiness:" ++ templateText p.projection.handle ++ ":" ++
          toString next.readinessAttempts
        activationKey := p.projection.activationKey
        acquisitionKey := p.projection.acquisitionKey
        handle := p.projection.handle
        target := some options.readinessTarget
        computed := none }
      .readiness

def readinessChecked : NodeProviderActorEffectResult → NodeProviderActor × Option Suspension
  | .ready observedAt =>
    ({ p with
        projection :=
          { p.projection with
            status := .running
            ready := true
            failure := none
            idleSince := none
            idleDeadline := none
            lastObservedAt := some observedAt }
        startupStartedAtMs := none }, none)
  | .waiting observedAt =>
    ({ p with
        projection :=
          { p.projection with
            status := .starting
            ready := false
            failure := none
            lastObservedAt := some observedAt } }, none)
  | .failed failure fact exit cancellation =>
    p.failReadinessAndSignal clock failure
      (fact.or (exit.or (cancellation.or (some clock.nowIso))))
  | .error failure => p.failReadinessAndSignal clock failure (some clock.nowIso)
  | _ => (p, none)

def cancelProvider (requestedBy : CancellationRequester) (reason : CancellationReason) :
    NodeProviderActor × Option Suspension :=
  if p.projection.handle.isSome then
    p.runEffect (p.cancellationCall clock requestedBy reason) (.cancellation reason)
  else (p, none)

/-- `cancelProvider` once its signal was sent. -/
def cancelSignaled : NodeProviderActorEffectResult → NodeProviderActor × Option Suspension
  | .failed failure _ _ _ => p.fail failure (some clock.nowIso)
  | result =>
    ({ p with
        projection :=
          { p.projection with
            status := .stopping
            ready := false
            failure := none
            idleSince := none
            idleDeadline := none
            lastObservedAt :=
              match result with
              | .signaled observedAt => some observedAt
              | _ => some clock.nowIso } }, none)

def tickIdleShutdown : NodeProviderActor × Option Suspension :=
  match p.projection.idleDeadline with
  | none => (p, none)
  | some idleDeadline =>
    if p.projection.status ≠ .running ∨ p.projection.handle = none ∨
        truthy p.projection.idleSince = false ∨ idleDeadline = "" ∨
        clock.nowIso < idleDeadline then (p, none)
    else
      p.runEffect
        (p.signalCall ("idle-shutdown:" ++ templateText p.projection.handle ++ ":" ++ idleDeadline)
          p.projection.handle)
        (.idleShutdownSignal clock.nowIso)

/-- `tickIdleShutdown` once its signal was sent. -/
def idleSignaled (shutdownRequestedAt : String) :
    NodeProviderActorEffectResult → NodeProviderActor × Option Suspension
  | .failed failure _ _ _ => p.fail failure (some clock.nowIso)
  | result =>
    ({ p with
        projection :=
          { p.projection with
            status := .stopping
            ready := false
            idleSince := none
            idleDeadline := none
            lastObservedAt :=
              match result with
              | .signaled observedAt => some observedAt
              | _ => some shutdownRequestedAt } }, none)

def observeExit : NodeProviderActor × Option Suspension :=
  match p.projection.handle with
  | none => (p, none)
  | some handle => (p, some (.observeExit handle))

def exitObserved :
    ChildProcessObserveExitResult → NodeProviderActor × Option Suspension
  | .error failure => p.fail failure (some clock.nowIso)
  | .running =>
    ({ p with projection := { p.projection with lastObservedAt := some clock.nowIso } }, none)
  | .ended outcome observedAt => (p, some (.tailOutput handle outcome observedAt))

def captureOutputTail (outcome : ExitOutcome) (observedAt : String) :
    ChildProcessTailOutputResult → NodeProviderActor × Option Suspension
  | .failed failure => (p, some (.captured handle outcome observedAt (some failure)))
  | .tailed stdout stderr =>
    ({ p with projection := { p.projection with stdoutTail := stdout, stderrTail := stderr } },
      some (.captured handle outcome observedAt none))

def classifyExit (projection : NodeProviderActorProjection) (outcome : ExitOutcome)
    (observedAt : String) : NodeProviderActorProjection :=
  let ended :=
    { projection with
      handle := none
      ready := false
      idleSince := none
      idleDeadline := none
      lastObservedAt := some observedAt }
  match outcome with
  | .crashed =>
    { ended with
      status := .failed
      restartCount := projection.restartCount + 1
      failure := some (createActorFailure .crashed "Provider process crashed.") }
  | .exited =>
    { ended with
      status := .idle
      failure := some (createActorFailure .exited "Provider process exited.") }
  | .cancelled => { ended with status := .idle, failure := none }

def exitCaptured (outcome : ExitOutcome) (observedAt : String) :
    Option NodeProviderLifecycleFailure → NodeProviderActor × Option Suspension
  | some failure => p.fail failure (some observedAt)
  | none =>
    ({ projection := classifyExit p.projection outcome observedAt
       readinessAttempts := 0
       startupStartedAtMs := none }, none)

def releaseProvider (acquisitionKey : Option ProviderLifecycleAcquisitionKey) : NodeProviderActor × Option Suspension :=
  if p.projection.status = .running ∧ p.projection.ready = true ∧
      (acquisitionKey = none ∨ acquisitionKey = p.projection.acquisitionKey) then
    match toISOString (clock.nowMs + options.idleShutdownMs) with
    | none => (p, none)
    | some idleDeadline =>
      ({ p with
          projection :=
            { p.projection with
              idleSince := some clock.nowIso
              idleDeadline := some idleDeadline
              lastObservedAt := some clock.nowIso } }, none)
  else (p, none)

def dispatch : NodeProviderActorCommand → NodeProviderActor × Option Suspension
  | .acquireProvider activationKey acquisitionKey =>
    p.acquireProvider options clock activationKey acquisitionKey
  | .cancelProvider requestedBy reason =>
    p.cancelProvider clock (requestedBy.getD .runtime) (reason.getD .shutdownRequested)
  | .checkProviderReadiness => p.checkReadiness options clock
  | .releaseProvider acquisitionKey => p.releaseProvider options clock acquisitionKey
  | .tickIdleShutdown => p.tickIdleShutdown clock
  | .observeProviderExit => p.observeExit

/-- The code after an `await runEffect` whose effect has a result. -/
def afterEffect (result : NodeProviderActorEffectResult) :
    EffectAwait → NodeProviderActor × Option Suspension
  | .acquireFilesystem activationKey acquisitionKey =>
    match result with
    | .failed failure _ _ _ => p.fail failure (some clock.nowIso)
    | _ => p.acquireModelCache options activationKey acquisitionKey
  | .acquireModelCache activationKey acquisitionKey =>
    match result with
    | .failed failure _ _ _ => p.fail failure (some clock.nowIso)
    | _ => p.acquireDuplicate activationKey acquisitionKey
  | .acquireDuplicate activationKey acquisitionKey =>
    p.acquireClaimed clock activationKey acquisitionKey result
  | .acquireSpawn => p.acquireSpawned options clock result
  | .readiness => p.readinessChecked clock result
  | .readinessFailedCancellation handle =>
    p.runEffect (p.signalCall ("signal:readiness_failed:" ++ handle.value) (some handle))
      .readinessFailedSignal
  | .readinessFailedSignal =>
    match result with
    | .failed failure _ _ _ => p.fail failure (some clock.nowIso)
    | _ => (p, none)
  | .cancellation reason =>
    p.runEffect
      (p.signalCall ("signal:" ++ reason.text ++ ":" ++ templateText p.projection.handle)
        p.projection.handle)
      .cancellationSignal
  | .cancellationSignal => p.cancelSignaled clock result
  | .idleShutdownSignal shutdownRequestedAt => p.idleSignaled clock shutdownRequestedAt result

/-- The code after an await, `none` when the answer is not the one awaited. -/
def resume : Suspension → Answer → Option (NodeProviderActor × Option Suspension)
  | .effect _ await, .effect (.recorded result _) =>
    some (p.afterEffect options clock result await)
  | .effect _ _, .effect (.error failure) => some (p.fail failure (some clock.nowIso))
  | .observeExit handle, .exit result => some (p.exitObserved clock handle result)
  | .tailOutput handle outcome observedAt, .tail result =>
    some (p.captureOutputTail handle outcome observedAt result)
  | .captured _ outcome observedAt tailFailure, .captured =>
    some (p.exitCaptured outcome observedAt tailFailure)
  | _, _ => none

end NodeProviderActor

end ActorWeb
