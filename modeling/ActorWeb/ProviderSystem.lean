import ActorWeb.ProviderProjection

namespace ActorWeb

open Transition Function JsText

namespace NodeProviderActor

def idempotencyKey (options : NodeProviderActorOptions) (call : EffectCall) : Option String :=
  let part (name : String) (value : Option String) : List String :=
    if truthy value then [name ++ encodeURIComponent (value.getD "")] else []
  if trim options.provider = "" then none
  else if trim call.operationKey = "" then none
  else some (":".intercalate
    (["node-provider-lifecycle-effect", "key", "kind=" ++ call.kind.text,
      "provider=" ++ encodeURIComponent options.provider,
      "operation=" ++ encodeURIComponent call.operationKey] ++
    part "activation=" (call.activationKey.map NonEmptyString.value) ++
    part "acquisition=" (call.acquisitionKey.map NonEmptyString.value) ++
    part "handle=" (call.handle.map NonEmptyString.value) ++
    part "target=" call.target))

inductive ThrowPhase
  | perform | record

def ThrowPhase.text : ThrowPhase → String
  | .perform => "perform"
  | .record => "record"

def createEffectThrowFailure (kind : NodeProviderLifecycleEffectKind) (phase : ThrowPhase)
    (message : String) : NodeProviderLifecycleFailure :=
  createActorFailure .invalidRequest
    ("Node provider actor " ++ phase.text ++ " failed for lifecycle effect \"" ++ kind.text ++
      "\": " ++ message)

def createStructuredEffectFailureResult (kind : NodeProviderLifecycleEffectKind)
    (failure : NodeProviderLifecycleFailure) : NodeProviderActorEffectResult :=
  match kind with
  | .duplicatePrevention => .error failure
  | .readiness | .spawn | .signal | .filesystemProbe | .modelCacheInspect | .cancellation =>
    .failed failure none none none

/-- How a `perform` came out. A result that has no JSON form makes `journal.record` throw. -/
inductive Performed
  | returned (result : NodeProviderActorEffectResult)
  | threw (message : String)
  | unserialisable (message : String)
deriving DecidableEq

def Performed.result (kind : NodeProviderLifecycleEffectKind) :
    Performed → NodeProviderActorEffectResult
  | .returned result => result
  | .threw message =>
    createStructuredEffectFailureResult kind (createEffectThrowFailure kind .perform message)
  | .unserialisable message =>
    createStructuredEffectFailureResult kind (createEffectThrowFailure kind .record message)

def createKindMismatchFailure : NodeProviderLifecycleFailure :=
  { code := .invalidRequest
    message := "Node provider lifecycle effect kind did not match the existing journal entry."
    retryable := false }

end NodeProviderActor

open NodeProviderActor

abbrev ProviderJournal :=
  EffectJournal String NodeProviderLifecycleEffectKind NodeProviderActorEffectResult

/-- Where a dispatched command is. An effect whose claim was granted still has to call
`perform`, and one that returns still has to hand its result to the command. -/
inductive TaskPhase
  | claimed (key : String) (call : EffectCall) (await : EffectAwait)
  | performing (key : String) (call : EffectCall) (await : EffectAwait)
  | returning (result : JournaledEffectResult) (call : EffectCall) (await : EffectAwait)
  | port (suspension : Suspension)

def TaskPhase.key : TaskPhase → Option String
  | .claimed key _ _ | .performing key _ _ => some key
  | .returning _ _ _ | .port _ => none

structure ProviderTask (Actor : Type) where
  actor : Actor
  phase : TaskPhase

/-- The calls of `perform` and the results that `runEffect` returned. -/
inductive EffectEvent
  | performed (key : String)
  | returned (key : String) (result : NodeProviderActorEffectResult)
deriving DecidableEq

/-- Actors that share a journal, and their dispatched commands, each in its slot. -/
structure ProviderSystem (Actor Slot : Type) where
  journal : ProviderJournal
  actors : Actor → NodeProviderActor
  tasks : Slot → Option (ProviderTask Actor)
  history : List EffectEvent

namespace ProviderSystem

variable {Actor Slot : Type}

def start : ProviderSystem Actor Slot :=
  { journal := .createInMemory
    actors := fun _ => .create
    tasks := fun _ => none
    history := [] }

inductive Action (Actor Slot : Type)
  | dispatch (slot : Slot) (actor : Actor) (command : NodeProviderActorCommand)
      (clock : NodeProviderActorClock)
  | perform (slot : Slot)
  | performed (slot : Slot) (outcome : Performed) (clock : NodeProviderActorClock)
  | resume (slot : Slot) (clock : NodeProviderActorClock)
  | answer (slot : Slot) (answer : Answer) (clock : NodeProviderActorClock)
  | reject (slot : Slot)

/-- `runEffect` up to the answer of its claim. -/
def claimEffect (options : NodeProviderActorOptions) (journal : ProviderJournal) (call : EffectCall)
    (await : EffectAwait) : ProviderJournal × TaskPhase × List EffectEvent :=
  match idempotencyKey options call with
  | none =>
    (journal, .returning (.error (createActorFailure .invalidRequest
      "Node provider actor could not create a lifecycle effect key.")) call await, [])
  | some key =>
    let (next, result) := journal.claim key call.kind
    match result with
    | .claimed => (next, .claimed key call await, [])
    | .duplicate (some r) =>
      (next, .returning (.recorded r.result true) call await, [.returned key r.result])
    | .duplicate none =>
      (next, .returning (.error (createActorFailure .duplicate
        "Node provider actor observed an already-pending lifecycle effect.")) call await, [])
    | .error _ _ => (next, .returning (.error createKindMismatchFailure) call await, [])

/-- `runEffect` from the end of its `perform` on. When `journal.record` throws, the failure
is recorded in its place. -/
def recordEffect (journal : ProviderJournal) (key : String) (call : EffectCall)
    (await : EffectAwait) (outcome : Performed) (clock : NodeProviderActorClock) :
    ProviderJournal × TaskPhase × List EffectEvent :=
  let (next, result) := journal.record key call.kind ⟨clock.nowIso, outcome.result call.kind⟩
  match result with
  | .recorded r => (next, .returning (.recorded r.result false) call await, [.returned key r.result])
  | .alreadyRecorded r =>
    (next, .returning (.recorded r.result true) call await, [.returned key r.result])
  | .missingClaim =>
    (next, .returning (.error (createActorFailure .invalidRequest
      "Node provider actor could not persist a lifecycle effect record.")) call await, [])
  | .error _ _ => (next, .returning (.error createKindMismatchFailure) call await, [])

section Step

variable [DecidableEq Actor] [DecidableEq Slot]

def journaled (s : ProviderSystem Actor Slot) (slot : Slot) (actor : Actor)
    (r : ProviderJournal × TaskPhase × List EffectEvent) : ProviderSystem Actor Slot :=
  { s with
    journal := r.1
    tasks := update s.tasks slot (some ⟨actor, r.2.1⟩)
    history := s.history ++ r.2.2 }

def settle (options : Actor → NodeProviderActorOptions) (s : ProviderSystem Actor Slot)
    (slot : Slot) (actor : Actor) (r : NodeProviderActor × Option Suspension) :
    ProviderSystem Actor Slot :=
  let moved := { s with actors := update s.actors actor r.1 }
  match r.2 with
  | none => { moved with tasks := update s.tasks slot none }
  | some (.effect call await) =>
    moved.journaled slot actor (claimEffect (options actor) s.journal call await)
  | some suspension => { moved with tasks := update s.tasks slot (some ⟨actor, .port suspension⟩) }

def step (options : Actor → NodeProviderActorOptions) (s : ProviderSystem Actor Slot) :
    Action Actor Slot → Option (ProviderSystem Actor Slot)
  | .dispatch slot actor command clock =>
    match s.tasks slot with
    | none =>
      some (s.settle options slot actor ((s.actors actor).dispatch (options actor) clock command))
    | some _ => none
  | .perform slot =>
    match s.tasks slot with
    | some ⟨actor, .claimed key call await⟩ =>
      some { s with
        tasks := update s.tasks slot (some ⟨actor, .performing key call await⟩)
        history := s.history ++ [.performed key] }
    | _ => none
  | .performed slot outcome clock =>
    match s.tasks slot with
    | some ⟨actor, .performing key call await⟩ =>
      if ∀ result ∈ call.computed, outcome = .returned result then
        some (s.journaled slot actor (recordEffect s.journal key call await outcome clock))
      else none
    | _ => none
  | .resume slot clock =>
    match s.tasks slot with
    | some ⟨actor, .returning result call await⟩ =>
      ((s.actors actor).resume (options actor) clock (.effect call await) (.effect result)).map
        (s.settle options slot actor)
    | _ => none
  | .answer slot answer clock =>
    match s.tasks slot with
    | some ⟨actor, .port suspension⟩ =>
      ((s.actors actor).resume (options actor) clock suspension answer).map
        (s.settle options slot actor)
    | _ => none
  | .reject slot =>
    match s.tasks slot with
    | some ⟨_, .port _⟩ => some { s with tasks := update s.tasks slot none }
    | _ => none

end Step

section Loop

def suspension : TaskPhase → Suspension
  | .claimed _ call await | .performing _ call await | .returning _ call await => .effect call await
  | .port k => k

variable [DecidableEq Actor]

def loop (s : ProviderSystem Actor Slot) (actor : Actor) : ProviderLoop Slot :=
  { actor := s.actors actor
    waiting := fun slot => (s.tasks slot).bind fun task =>
      if task.actor = actor then some (suspension task.phase) else none }

variable [DecidableEq Slot] {s t : ProviderSystem Actor Slot}
  {options : Actor → NodeProviderActorOptions}

end Loop

end ProviderSystem

end ActorWeb
