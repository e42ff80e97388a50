import ActorWeb.AgentLoopState
import ActorWeb.CheckpointRehydration

namespace ActorWeb.AgentLoop

open JsText SessionCheckpoint

section Messages

def llmToolName : String := "llm"

structure ToolDefinition where
  name : String
  description : Option String
  inputSchema : Option Json
deriving DecidableEq

structure LlmRequest where
  system : Option String
  messages : List LlmMessage
  tools : List String
  toolDefinitions : Option (List ToolDefinition)
deriving DecidableEq

inductive ReconciliationOutcome
  | effectApplied | effectNotApplied
deriving DecidableEq

def ReconciliationOutcome.text : ReconciliationOutcome → String
  | .effectApplied => "effect_applied"
  | .effectNotApplied => "effect_not_applied"

structure ReconciliationReceipt where
  receiptId : String
  outcome : ReconciliationOutcome
deriving DecidableEq

structure ToolResult where
  (toolCallId name : String)
  ok : Bool
  output : Option Json
deriving DecidableEq

inductive Request
  | startAgent (prompt : String) (system : Option String)
  | observeToolResult (result : ToolResult)
  | getAgentContext
deriving DecidableEq

/-- A checkpoint state that comes with a message has not been looked at. -/
inductive Message
  | request (request : Request)
  | reconcileAgentSession (receipt : ReconciliationReceipt) (checkpointState : Option Json)
deriving DecidableEq

inductive Status
  | responded | waitingForTool
deriving DecidableEq

inductive Reply
  | message (status : Status) (message : LlmMessage) (toolCalls : List ToolCall)
      (usage : Option Json)
  | reconciled (receipt : ReconciliationReceipt)
  | failed (error : AgentError)
  | context (context : AgentContext)
deriving DecidableEq

def Reply.ok : Reply → Bool
  | .message _ _ _ _ | .reconciled _ => true
  | .failed _ | .context _ => false

inductive AgentEvent
  | stepCompleted (step : Nat) (message : LlmMessage)
  | toolCallRequested (step : Nat) (toolCall : ToolCall)
  | toolResultObserved (toolCallId name : String) (ok : Bool)
  | stepFailed (step : Nat) (error : AgentError)
  | sessionReconciled (receipt : ReconciliationReceipt)
deriving DecidableEq

structure Answer where
  context : AgentContext
  reply : Reply
  emitted : List AgentEvent
deriving DecidableEq

structure Options where
  system : Option String := none
  toolDefinitions : Option (List ToolDefinition) := none
  initialHistory : List LlmMessage := []
  initialCheckpointState : Option AgentContext := none
  sessionId : String
  actorId : Option String := none

end Messages

section Errors

/-- A thrown value: the error that it is by `isActorAgentError`, and its `toErrorMessage`. -/
structure Thrown where
  agentError : Option AgentError
  message : String

def contains (s part : String) : Bool := s.toList.tails.any fun rest => part.toList.isPrefixOf rest

def normalizeThrownError (t : Thrown) : AgentError :=
  t.agentError.getD
    { code :=
        if contains t.message ("Actor tool \"" ++ llmToolName ++ "\" is not registered.") then
          "LLM_TOOL_UNAVAILABLE"
        else "AGENT_LOOP_FAILED"
      message := t.message }

def createFailureResult (context : AgentContext) (error : AgentError)
    (emitPrefix : List AgentEvent) : Answer :=
  { context := { context with lastError := some error }
    reply := .failed error
    emitted := emitPrefix ++ [.stepFailed context.steps error] }

def writeOutcome : WriteResult → String
  | .stored _ => "stored"
  | .replaced _ _ => "replaced"
  | .duplicate _ _ => "duplicate"
  | .tooLarge _ _ _ => "too_large"
  | .expired _ => "expired"
  | .rejected _ reason => "rejected (" ++ reason ++ ")"

def createCheckpointWriteFailure (r : WriteResult) : AgentError :=
  { code := "CHECKPOINT_WRITE_FAILED"
    message := "Checkpoint write failed: " ++ writeOutcome r ++ "." }

def isCheckpointWriteDurable : WriteResult → Bool
  | .stored _ | .replaced _ _ | .duplicate _ _ => true
  | .tooLarge _ _ _ | .expired _ | .rejected _ _ => false

end Errors

section Contexts

def createInitialContext (options : Options) : AgentContext :=
  match options.initialCheckpointState with
  | some state => { state with system := state.system.or options.system }
  | none =>
    { system := options.system
      history := options.initialHistory
      steps := 0
      pendingToolCalls := []
      lastError := none }

def createObservedToolMessage (r : ToolResult) : LlmMessage :=
  { role := .tool
    content := (Json.obj ([("ok", .bool r.ok)] ++
      SessionCheckpoint.optional "output" r.output)).stringify 0
    toolCallId := some r.toolCallId
    toolName := some r.name }

def observedToolEvent (r : ToolResult) : AgentEvent := .toolResultObserved r.toolCallId r.name r.ok

def toolNamesForModel (registered : List String) : List String :=
  registered.filter fun name => name ≠ llmToolName

def toolDefinitionsForModel (requested : Option (List ToolDefinition)) (allowed : List String) :
    Option (List ToolDefinition) :=
  let authorized := (requested.getD []).filter fun definition => allowed.contains definition.name
  if authorized = [] then none else some authorized

structure Turn where
  execution : AgentContext
  messageType : String
  observed : List AgentEvent
deriving DecidableEq

variable (t : Turn)

def Turn.step : Nat := t.execution.steps + 1

def Turn.failure (error : AgentError) : Answer :=
  createFailureResult t.execution error t.observed

def startTurn (options : Options) (active : AgentContext) (prompt : String)
    (system : Option String) : Turn :=
  { execution :=
      { active with
        system := (system.or active.system).or options.system
        history := active.history ++ [{ role := .user, content := prompt }]
        lastError := none }
    messageType := "START_AGENT"
    observed := [] }

def observeContext (options : Options) (active : AgentContext) (r : ToolResult) : AgentContext :=
  { system := active.system.or options.system
    history := active.history ++ [createObservedToolMessage r]
    steps := active.steps
    pendingToolCalls := active.pendingToolCalls.filter fun call => call.id ≠ r.toolCallId
    lastError := none }

def observeTurn (options : Options) (active : AgentContext) (r : ToolResult) : Turn :=
  { execution := observeContext options active r
    messageType := "OBSERVE_TOOL_RESULT"
    observed := [observedToolEvent r] }

def LlmMessage.calls (m : LlmMessage) : List ToolCall := m.toolCalls.getD []

def Turn.next (message : LlmMessage) : AgentContext :=
  { t.execution with
    history := t.execution.history ++ [message]
    steps := t.step
    pendingToolCalls := t.execution.pendingToolCalls ++ message.calls
    lastError := none }

def Turn.emitted (message : LlmMessage) : List AgentEvent :=
  t.observed ++
    if message.calls = [] then [.stepCompleted t.step message]
    else message.calls.map fun call => .toolCallRequested t.step call

def Turn.responded (t : Turn) (message : LlmMessage) (usage : Option Json) : Answer :=
  { context := t.next message
    reply := .message (if message.calls = [] then .responded else .waitingForTool) message
      message.calls usage
    emitted := t.emitted message }

def Turn.request (options : Options) (registered : List String) (t : Turn) : LlmRequest :=
  { system := t.execution.system
    messages := t.execution.history
    tools := toolNamesForModel registered
    toolDefinitions :=
      toolDefinitionsForModel options.toolDefinitions (toolNamesForModel registered) }

end Contexts

section Checkpoints

def checkpointId (sessionId : String) (step : Nat) (key : String) : String :=
  "checkpoint:" ++ sessionId ++ ":" ++ toString step ++ ":" ++ key

def effectAttemptId (sessionId key : String) : String := "effect-attempt:" ++ sessionId ++ ":" ++ key

def createCheckpointIdentity (options : Options) (step : Nat) : ActorIdentity :=
  let session (kind : String) := kind ++ ":" ++ options.sessionId ++ ":" ++ toString step
  { actorId := options.actorId.getD "actor://local/agent"
    sessionId := options.sessionId
    turnId := "turn:" ++ toString step
    traceId := session "trace"
    commandId := session "cmd"
    correlationId := session "corr"
    causationId := session "cause" }

/-- The input of `writeCheckpointEnvelope`, whose effect is always irreversible. -/
structure WriteInput where
  step : Nat
  phase : EffectPhase
  intent : Json
  receipt : Option Json := none
  reconciliationReason : Option String := none
  checkpointKey : Option String := none
  effectKey : Option String := none

def checkpointEnvelope (options : Options) (context : AgentContext) (input : WriteInput)
    (recordedAt : String) : Envelope :=
  let effectKey := input.effectKey.getD (toString input.step)
  { sessionId := options.sessionId
    checkpointId :=
      checkpointId options.sessionId input.step (input.checkpointKey.getD input.phase.text)
    actor := createCheckpointIdentity options input.step
    deterministic := createCheckpointState context
    effect := some
      { effectId := "effect:" ++ options.sessionId ++ ":" ++ effectKey
        effectAttemptId := effectAttemptId options.sessionId effectKey
        phase := input.phase
        irreversible := true
        intent := some input.intent
        receipt := input.receipt }
    continuation := none
    reconciliation :=
      if input.phase = .reconciliationRequired then
        { status := .required
          reason := some (input.reconciliationReason.getD
            "Checkpoint requires reconciliation before resume.") }
      else { status := .clear, reason := none }
    recordedAt
    expiresAt := none
    staleAt := none
    redactedFields := []
    metadata := none }

def reconciledEnvelope (base : Envelope) (receipt : ReconciliationReceipt) (next : AgentContext)
    (recordedAt : String) : Envelope :=
  { base with
    checkpointId := base.checkpointId ++ ":reconciled:" ++ receipt.receiptId
    deterministic := createCheckpointState next
    effect := base.effect.map fun effect =>
      { effect with
        phase := .receiptRecorded
        receipt := some (.obj [("receiptId", .str receipt.receiptId),
          ("receiptKind", .str "reconciliation"), ("status", .str "reconciled"),
          ("outcome", .str receipt.outcome.text)]) }
    reconciliation := { status := .clear, reason := none }
    recordedAt
    staleAt := none }

def answerReceipt (message : LlmMessage) (usage : Option Json) : Json :=
  .obj [("ok", .bool true), ("value", .obj (SessionCheckpoint.optional "usage" usage ++
    [("message", .obj (("role", .str message.role.text) :: message.extras))]))]

def failureReceipt (error : AgentError) : Json :=
  .obj [("ok", .bool false), ("error", error.toJson)]

def plainReceipt : Json := .obj [("recorded", .bool true)]

/-- A write that the handler waits for, with what it needs afterwards. -/
inductive Writing
  | waiting (active next : AgentContext) (result : ToolResult)
  | intent (turn : Turn)
  | receipt (turn : Turn) (message : LlmMessage) (usage : Option Json)
  | failure (turn : Turn) (error : AgentError)
  | unsettled (turn : Turn) (error : AgentError)
  | reconciled (receipt : ReconciliationReceipt) (base : Envelope) (next : AgentContext)
deriving DecidableEq

def turnIntent (t : Turn) : Json :=
  .obj [("tool", .str llmToolName), ("messageType", .str t.messageType)]

def Writing.envelope (options : Options) (recordedAt : String) : Writing → Envelope
  | .waiting _ next result =>
    checkpointEnvelope options next
      { step := next.steps
        phase := .receiptRecorded
        intent := .obj [("tool", .str result.name), ("toolCallId", .str result.toolCallId)]
        receipt := some plainReceipt
        checkpointKey := some ("tool_result:" ++ result.toolCallId)
        effectKey := some ("tool_result:" ++ result.toolCallId) } recordedAt
  | .intent turn =>
    checkpointEnvelope options turn.execution
      { step := turn.step, phase := .intentRecorded, intent := turnIntent turn } recordedAt
  | .receipt turn message usage =>
    checkpointEnvelope options (turn.next message)
      { step := turn.step
        phase := .receiptRecorded
        intent := turnIntent turn
        receipt := some (answerReceipt message usage) } recordedAt
  | .failure turn error =>
    checkpointEnvelope options (turn.failure error).context
      { step := turn.step
        phase := .receiptRecorded
        intent := turnIntent turn
        receipt := some (failureReceipt error) } recordedAt
  | .unsettled turn error =>
    checkpointEnvelope options (turn.failure error).context
      { step := turn.step
        phase := .reconciliationRequired
        intent := turnIntent turn
        reconciliationReason := some error.message } recordedAt
  | .reconciled r base next => reconciledEnvelope base r next recordedAt

/-- The answer when the write throws. What `composeFailureWithDurability` adds to an error is
its cause. -/
def Writing.failed (current : AgentContext) (error : AgentError) : Writing → Answer
  | .waiting active _ result => createFailureResult active error [observedToolEvent result]
  | .intent turn => turn.failure error
  | .receipt turn message _ => createFailureResult (turn.next message) error (turn.emitted message)
  | .failure turn original | .unsettled turn original => turn.failure original
  | .reconciled _ _ _ => createFailureResult current error []

def Writing.thrown (t : Thrown) : Writing → AgentError
  | .reconciled _ _ _ =>
    { code := "CHECKPOINT_WRITE_FAILED", message := "Checkpoint write failed: " ++ t.message }
  | _ => normalizeThrownError t

end Checkpoints

section Reads

def readFailed (t : Thrown) : AgentError :=
  { code := "CHECKPOINT_READ_FAILED", message := "Checkpoint read failed: " ++ t.message }

def invalidState : AgentError :=
  { code := "CHECKPOINT_INVALID_STATE", message := "Checkpoint deterministic state is invalid." }

/-- `bootstrapCheckpoint` of a loop with a checkpoint store: the context that is ready, or the
error that blocks the session. -/
def bootstrapCheckpoint (context : AgentContext) :
    Except Thrown ReadResult → Except AgentError AgentContext
  | .error t => .error (readFailed t)
  | .ok result =>
    match deriveRehydration [] result with
    | .resumed e =>
      match readCheckpointState e.deterministic with
      | some state => .ok state
      | none => .error invalidState
    | .deferredForReconciliation _ reason =>
      .error { code := "CHECKPOINT_RECONCILIATION_REQUIRED", message := reason }
    | .manualRecoveryRequired .missing _ => .ok context
    | .manualRecoveryRequired reason detail =>
      .error
        { code := "CHECKPOINT_RECOVERY_REQUIRED"
          message :=
            detail.getD ("Checkpoint recovery required: " ++ reason.text ++ ".") }

def reconciliationInvalid : AgentError :=
  { code := "CHECKPOINT_RECONCILIATION_INVALID"
    message := "Reconciliation requires a non-empty receiptId." }

/-- `reconcileAgentSessionCheckpoint` up to its write: the envelope that is reconciled and the
context that follows. -/
def reconcileCheckpoint (receipt : ReconciliationReceipt) (checkpointState : Option Json) :
    Except Thrown ReadResult → Except AgentError (Envelope × AgentContext)
  | .error t => .error (readFailed t)
  | .ok result =>
    match deriveRehydration [] result with
    | .deferredForReconciliation e _ =>
      match readCheckpointState e.deterministic with
      | none => .error invalidState
      | some recorded =>
        match receipt.outcome with
        | .effectNotApplied => .ok (e, recorded)
        | .effectApplied =>
          match checkpointState.bind readCheckpointState with
          | some next => .ok (e, next)
          | none =>
            .error
              { code := "CHECKPOINT_RECONCILIATION_INVALID"
                message := "Applied-effect reconciliation requires the resulting " ++
                  "deterministic checkpoint state." }
    | _ =>
      .error
        { code := "CHECKPOINT_RECONCILIATION_NOT_REQUIRED"
          message := "The current checkpoint is not awaiting reconciliation." }

inductive Next
  | answer (answer : Answer)
  | write (writing : Writing)

def proceed (options : Options) (active : AgentContext) : Request → Next
  | .getAgentContext => .answer { context := active, reply := .context active, emitted := [] }
  | .startAgent prompt system => .write (.intent (startTurn options active prompt system))
  | .observeToolResult result =>
    let next := observeContext options active result
    if next.pendingToolCalls = [] then .write (.intent (observeTurn options active result))
    else .write (.waiting active next result)

def afterRead (options : Options) (context : AgentContext) (answer : Except Thrown ReadResult) :
    Message → Next
  | .request request =>
    match bootstrapCheckpoint context answer with
    | .error error => .answer (createFailureResult context error [])
    | .ok active => proceed options active request
  | .reconcileAgentSession receipt checkpointState =>
    match reconcileCheckpoint receipt checkpointState answer with
    | .error error => .answer (createFailureResult context error [])
    | .ok (base, next) => .write (.reconciled receipt base next)

inductive LlmOutcome
  | ok (message : LlmMessage) (usage : Option Json)
  | failed (error : AgentError)
  | thrown (t : Thrown)

def afterCall (turn : Turn) : LlmOutcome → Writing
  | .ok message usage => .receipt turn message usage
  | .failed error => .failure turn error
  | .thrown t => .unsettled turn (normalizeThrownError t)

end Reads

structure Call where
  step : Nat
  effectAttemptId : String
  request : LlmRequest
deriving DecidableEq

def Turn.call (options : Options) (registered : List String) (t : Turn) : Call :=
  { step := t.step
    effectAttemptId := AgentLoop.effectAttemptId options.sessionId (toString t.step)
    request := t.request options registered }

inductive Phase
  | idle
  | reading (message : Message)
  | writing (writing : Writing) (envelope : Envelope)
  | calling (turn : Turn)
deriving DecidableEq

/-- What is seen of the loop. A write is kept when the store holds it afterwards. -/
inductive Entry
  | wrote (envelope : Envelope) (kept : Bool)
  | reconciled (envelope : Envelope) (kept : Bool)
  | executed (call : Call)
  | answered (answer : Answer)
deriving DecidableEq

structure Loop where
  context : AgentContext
  phase : Phase
  stored : Option Envelope
  log : List Entry

inductive Action
  | receive (message : Message)
  | read (answer : Except Thrown ReadResult) (clock : Except Thrown String)
  | write (answer : Except Thrown WriteResult) (kept : Bool)
  | call (outcome : LlmOutcome) (clock : Except Thrown String)
  | crash (kept : Bool)

namespace Loop

variable (options : Options) (registered : List String)

def start : Loop :=
  { context := createInitialContext options, phase := .idle, stored := none, log := [] }

variable (s : Loop)

def answer (a : Answer) : Loop :=
  { s with context := a.context, phase := .idle, log := s.log ++ [.answered a] }

def entry (e : Envelope) (kept : Bool) : Writing → Entry
  | .reconciled _ _ _ => .reconciled e kept
  | _ => .wrote e kept

variable (w : Writing)

def record (e : Envelope) (kept : Bool) : Loop :=
  { s with
    stored := if kept then some e else s.stored
    log := s.log ++ [entry e kept w] }

/-- The envelope of a write, unless the clock or `createAgentSessionCheckpointEnvelope` throws. -/
def envelopeOf (clock : Except Thrown String) : Except Thrown Envelope :=
  clock.bind fun recordedAt =>
    (createEnvelope (w.envelope options recordedAt)).mapError fun message =>
      { agentError := none, message }

def begin (clock : Except Thrown String) : Loop :=
  match envelopeOf options w clock with
  | .ok e => { s with phase := .writing w e }
  | .error t => s.answer (w.failed s.context (w.thrown t))

def follow (clock : Except Thrown String) : Next → Loop
  | .answer a => s.answer a
  | .write w => s.begin options w clock

def execute (turn : Turn) : Loop :=
  { s with
    phase := .calling turn
    log := s.log ++ [.executed (turn.call options registered)] }

def written : Writing → Loop
  | .waiting _ next result =>
    s.answer
      { context := next
        reply := .message .waitingForTool (createObservedToolMessage result) [] none
        emitted := [observedToolEvent result] }
  | .intent turn => s.execute options registered turn
  | .receipt turn message usage => s.answer (turn.responded message usage)
  | .failure turn error | .unsettled turn error => s.answer (turn.failure error)
  | .reconciled receipt _ next =>
    s.answer
      { context := next
        reply := .reconciled receipt
        emitted := [.sessionReconciled receipt] }

def refusal : Except Thrown WriteResult → Option AgentError
  | .error t => some (w.thrown t)
  | .ok result =>
    if isCheckpointWriteDurable result then none else some (createCheckpointWriteFailure result)

/-- The answers a store may give to a read: it finds only what it holds. -/
def readable (stored : Option Envelope) : Except Thrown ReadResult → Bool
  | .ok (.missing _) => stored.isNone
  | .ok (.found _ e _) => stored = some e
  | .ok (.corrupt _ _) | .ok (.versionMismatch _ _) | .error _ => true

/-- The answers a store may give to a write: what it has stored it holds, and a duplicate has
the checkpointId of what it holds. -/
def writable (stored : Option Envelope) (e : Envelope) (kept : Bool) :
    Except Thrown WriteResult → Bool
  | .ok (.stored _) | .ok (.replaced _ _) => kept
  | .ok (.duplicate _ _) => !kept && stored.any fun held => held.checkpointId = e.checkpointId
  | .ok (.tooLarge _ _ _) | .ok (.expired _) | .ok (.rejected _ _) | .error _ => true

def receive (message : Message) : Loop :=
  match message with
  | .reconcileAgentSession receipt _ =>
    if trim receipt.receiptId = "" then
      s.answer (createFailureResult s.context reconciliationInvalid [])
    else { s with phase := .reading message }
  | .request _ => { s with phase := .reading message }

/-- A restarted actor with the same store. A write that was under way is kept or not. -/
def crash (kept : Bool) : Loop :=
  let restarted (s : Loop) : Loop := { s with context := createInitialContext options, phase := .idle }
  match s.phase with
  | .writing w e => restarted (s.record w e kept)
  | .idle | .reading _ | .calling _ => restarted s

def step : Action → Option Loop
  | .receive message => if s.phase = .idle then some (s.receive message) else none
  | .read answer clock =>
    match s.phase with
    | .reading message =>
      if readable s.stored answer then
        some (s.follow options clock (afterRead options s.context answer message))
      else none
    | _ => none
  | .write answer kept =>
    match s.phase with
    | .writing w e =>
      if writable s.stored e kept answer then
        match refusal w answer with
        | some error => some ((s.record w e kept).answer (w.failed s.context error))
        | none => some ((s.record w e kept).written options registered w)
      else none
    | _ => none
  | .call outcome clock =>
    match s.phase with
    | .calling turn => some (s.begin options (afterCall turn outcome) clock)
    | _ => none
  | .crash kept => some (s.crash options kept)

def exec (actions : List Action) : Option Loop :=
  actions.foldlM (fun s a => s.step options registered a) s

end Loop

end ActorWeb.AgentLoop
