import ActorWeb.ExecutionReceipts
import ActorWeb.LoggedProcess

namespace ActorWeb.Gateway

open AgentExecution JsText LoggedProcess

/-- What a callback throws or rejects with: the message of an `Error`, `none` for another value. -/
abbrev Thrown := Option String

inductive SettleOutcome
  | notDispatched | dispatchSucceeded | dispatchIndeterminate
deriving DecidableEq

inductive ErrorCode
  | invalidFrame | invalidScope | notFound | forbidden | unauthorized | badSequence | internalError

inductive ResponseFrame (Value : Type)
  | ack (streamId : String) (requestId : Option String) (authorization : Option AuthorizationReceipt)
  | reply (streamId requestId : String) (value : Value) (authorization : Option AuthorizationReceipt)
  | error (streamId requestId : Option String) (code : ErrorCode) (message : String)
      (recoverable : Bool) (rejection : Option RejectionReceipt)

inductive TraceFactCode
  | traceBufferOverflow | traceMalformed | traceUnsupported | traceDispatchFailed

structure TraceSource where
  appendTrace : ExecutionTrace → Except Thrown Unit
  appendTraceFact : TraceFactCode → String → Except Thrown Unit

/-- A runtime source as a command sees it: what it was resolved for may not send, ask or trace. -/
structure CommandSource (Value : Type) where
  address : String
  send : Option (Json → Except Thrown Unit)
  ask : Option (Json → Option JsonNumber → Except Thrown Value)
  trace : Option TraceSource

structure AdmissionInput (Principal : Type) where
  (actorId sessionId : String)
  kind : CommandKind
  message : Json
  principal : Principal
  metadata : Option Json

/-- The command admission of a hub: `admitCommand` is `admitAgentExecutionCommand` with the policy and the
idempotency port, `settle` tells whether the settlement of its claim succeeds. -/
structure CommandAdmission (AuthContext Principal : Type) where
  resolvePrincipal : Option (AuthContext → Except Thrown Principal)
  policy : Bool
  onDecision : Option (AdmissionDecision → Except Thrown Unit)
  admitCommand : AdmissionInput Principal → Except Thrown AdmissionDecision
  settle : SettleOutcome → Bool

/-- A connection that processes a command. It may terminate before it answers. -/
structure CommandConnection (AuthContext Principal Value : Type) where
  connectionId : String
  streams : String → Option (CommandSource Value)
  authenticatedAuthContext : AuthContext
  commandAdmission : Option (CommandAdmission AuthContext Principal)
  redact : Value → Except Thrown Json
  (now fallbackCommandId : String)
  live : Bool

inductive CommandEvent (Value : Type)
  | admitted (decision : AdmissionDecision)
  | recorded (decision : AdmissionDecision) (accepted : Bool)
  | dispatched (resolved : Bool)
  | settled (outcome : SettleOutcome)
  | sent (frame : ResponseFrame Value)

abbrev Process (Value α : Type) := LoggedProcess Thrown (CommandEvent Value) α

section Requests

def nonEmptyText : Option Json → Option String
  | some (.str s) => if trim s ≠ "" then some s else none
  | _ => none

def isValidMessage (message : Option Json) : Bool :=
  message.any fun m => (nonEmptyText (m.get "type")).isSome

def normalizeRequestId (requestId : Option Json) : Option String := nonEmptyText requestId

/-- `Number.isInteger(n) && n > 0`: large integers are printed with an exponent. -/
def positiveInteger (n : JsonNumber) : Bool :=
  (n.asNat.any fun k => 0 < k) || (n.digits.contains '+' && n.digits.head? ≠ some '-')

def normalizeTimeoutMs : Option Json → Option (Option JsonNumber)
  | none => some none
  | some (.num n) => if positiveInteger n then some (some n) else none
  | some _ => none

end Requests

section Receipts

def preAuthRechecks : List RecheckField := []

def gatewayReceiptBase (actorId sessionId commandId now kind : String) (principalId : Option Json)
    (sequence : Nat) : ReceiptBase :=
  let traceId := "trace:" ++ sessionId ++ ":" ++ commandId
  { receiptId := traceId ++ ":" ++ kind ++ ":" ++ toString sequence
    recordId := traceId ++ ":record:" ++ kind ++ ":" ++ toString sequence
    traceId, actorId, sessionId, commandId
    intentId := none
    principalId := principalId
    revision := none
    correlationId := none
    idempotencyKey := none
    sequence
    occurredAt := now }

def createGatewayRejectedDecision (actorId sessionId commandId now : String)
    (admissionStage : AdmissionStage) (rechecked : List RecheckField) (principal : Option Json)
    (principalId : Option Json) (code detail : String) : AdmissionDecision :=
  { principal := principal.getD
      (.obj [("id", .str "principal:unknown"), ("kind", .str "unknown")])
    commandId
    admissionReceipt :=
      { base := gatewayReceiptBase actorId sessionId commandId now "admission" principalId 1
        admissionStage
        outcome := .rejected
        rechecked }
    verdict := .rejected
      { base := gatewayReceiptBase actorId sessionId commandId now "rejection" principalId 2
        admissionStage
        reason := { code, detail := some (.json (.str detail)) } } }

def principalIdOf (principal : Json) : Option Json :=
  (principal.get "id").filter JsValue.jsonTruthy

def createGatewayDecisionTrace (decision : AdmissionDecision) (receipts : List Receipt) :
    ExecutionTrace :=
  let first := decision.admissionReceipt.base
  { traceId := first.traceId
    actorId := first.actorId
    sessionId := first.sessionId
    commandId := first.commandId
    principalId := principalIdOf decision.principal
    correlationId := first.correlationId.filter JsValue.jsonTruthy
    receipts }

def resultReceipt (authorization : AuthorizationReceipt) (principal : Json) (now : String)
    (output : Json) : ResultReceipt :=
  let sequence := authorization.base.sequence + 1
  { base :=
      { authorization.base with
        receiptId := authorization.base.traceId ++ ":result:" ++ toString sequence
        recordId := authorization.base.traceId ++ ":record:result:" ++ toString sequence
        intentId := none
        principalId := principalIdOf principal
        revision := none
        correlationId := none
        idempotencyKey := none
        sequence
        occurredAt := now }
    output }

def admissionErrorCodeForDecision (rejection : RejectionReceipt) : ErrorCode :=
  if rejection.reason.code = "missing_principal" then .unauthorized
  else if rejection.reason.code = "principal_resolution_failure" then .unauthorized
  else if rejection.reason.code = "invalid_command_metadata" then .invalidFrame
  else .forbidden

def rejectionMessage (rejection : RejectionReceipt) : String :=
  match rejection.reason.detail.filter JsValue.truthy with
  | some detail => rejection.reason.code ++ ": " ++ detail.text
  | none => rejection.reason.code

end Receipts

variable {AuthContext Principal Value : Type}

section Effects

variable (c : CommandConnection AuthContext Principal Value)

def sendFrame (frame : ResponseFrame Value) : Process Value Unit :=
  if c.live then emit (.sent frame) else pure ()

def sendError (code : ErrorCode) (message : String) (recoverable : Bool)
    (streamId requestId : Option String) (rejection : Option RejectionReceipt) :
    Process Value Unit :=
  sendFrame c (.error streamId requestId code message recoverable rejection)

def trySettleGatewayClaim (admission : CommandAdmission AuthContext Principal)
    (decision : AdmissionDecision) (outcome : SettleOutcome) : Process Value Bool :=
  match decision.verdict with
  | .authorized _ true => do
      emit (.settled outcome)
      pure (admission.settle outcome)
  | _ => pure true

def appendGatewayDecisionTrace (source : CommandSource Value) (decision : AdmissionDecision)
    (receipts : List Receipt) : Process Value Unit :=
  match source.trace with
  | some trace => call (trace.appendTrace (createGatewayDecisionTrace decision receipts))
  | none => pure ()

def appendGatewayTraceFact (source : CommandSource Value) (code : TraceFactCode)
    (message : String) : Process Value Unit :=
  match source.trace with
  | some trace => call (trace.appendTraceFact code message)
  | none => pure ()

end Effects

section Admission

variable (c : CommandConnection AuthContext Principal Value)

def commandIdOf (metadata : Option Json) : String :=
  ((nonEmptyText (metadata.bind fun m => m.get "commandId")).map trim).getD c.fallbackCommandId

/-- The first of the checks of `validateGatewayCommandAdmissionConfig` that fails. -/
def validateGatewayCommandAdmissionConfig (admission : CommandAdmission AuthContext Principal) :
    Except (String × String) ((AuthContext → Except Thrown Principal) ×
      (AdmissionDecision → Except Thrown Unit)) :=
  match admission.resolvePrincipal with
  | none =>
    .error ("missing_principal", "commandAdmission requires an explicit principal resolver.")
  | some resolvePrincipal =>
    if admission.policy = false then
      .error ("missing_policy_adapter", "commandAdmission requires an explicit policy adapter.")
    else
      match admission.onDecision with
      | none =>
        .error ("missing_decision_sink",
          "commandAdmission requires an explicit durable decision sink.")
      | some onDecision => .ok (resolvePrincipal, onDecision)

def recordDecision (admission : CommandAdmission AuthContext Principal)
    (onDecision : AdmissionDecision → Except Thrown Unit) (actorId : String)
    (decision : AdmissionDecision) : Process Value AdmissionDecision :=
  match onDecision decision with
  | .ok _ => do
      emit (.recorded decision true)
      pure decision
  | .error _ => do
      emit (.recorded decision false)
      let _ ← trySettleGatewayClaim admission decision .notDispatched
      pure (createGatewayRejectedDecision actorId c.connectionId decision.commandId c.now
        decision.admissionReceipt.admissionStage decision.admissionReceipt.rechecked
        (some decision.principal) (principalIdOf decision.principal) "decision_sink_failure"
        "Decision sink threw before recording the admission decision.")

def emitAdmissionDecision (admission : CommandAdmission AuthContext Principal) (kind : CommandKind)
    (streamId : String) (message : Json) (metadata : Option Json) :
    Process Value AdmissionDecision :=
  let actorId := ((c.streams streamId).map CommandSource.address).getD streamId
  let commandId := commandIdOf c metadata
  match validateGatewayCommandAdmissionConfig admission with
  | .error (code, detail) =>
    pure (createGatewayRejectedDecision actorId c.connectionId commandId c.now .schemaAdmitted
      preAuthRechecks none none code detail)
  | .ok (resolvePrincipal, onDecision) =>
    match resolvePrincipal c.authenticatedAuthContext with
    | .error _ =>
      pure (createGatewayRejectedDecision actorId c.connectionId commandId c.now .schemaAdmitted
        preAuthRechecks none none "principal_resolution_failure"
        "Principal resolver threw before returning a principal.")
    | .ok principal => do
        let decision ← call (admission.admitCommand
          { actorId, sessionId := c.connectionId, kind, message, principal, metadata })
        emit (.admitted decision)
        recordDecision c admission onDecision actorId decision

/-- What `sendCommand` and `askCommand` do with a source that takes the command: they differ in the
kind, the call, the receipts of the trace and the answer. -/
structure Dispatch (Value α : Type) where
  kind : CommandKind
  perform : Except Thrown α
  receipts : AdmissionDecision → AuthorizationReceipt → α → Except Thrown (List Receipt)
  response : Option AuthorizationReceipt → α → ResponseFrame Value
  (failedFact failedText : String)

variable {α : Type} (d : Dispatch Value α)

def performDispatch : Process Value α :=
  match d.perform with
  | .ok value => do
      emit (.dispatched true)
      pure value
  | .error error => do
      emit (.dispatched false)
      throw error

def dispatchSucceeded (admission : CommandAdmission AuthContext Principal)
    (source : CommandSource Value) (streamId : String) (requestId : Option String)
    (decision : AdmissionDecision) (authorization : AuthorizationReceipt) (value : α) :
    Process Value Unit := do
  let receipts ← call (d.receipts decision authorization value)
  appendGatewayDecisionTrace source decision receipts
  let settled ← trySettleGatewayClaim admission decision .dispatchSucceeded
  if settled then sendFrame c (d.response (some authorization) value)
  else
    sendError c .internalError "Dispatch outcome could not be recorded after execution." false
      (some streamId) requestId none

def dispatchFailed (admission : CommandAdmission AuthContext Principal)
    (source : CommandSource Value) (streamId : String) (requestId : Option String)
    (decision : AdmissionDecision) (error : Thrown) : Process Value Unit := do
  appendGatewayTraceFact source .traceDispatchFailed d.failedFact
  let _ ← trySettleGatewayClaim admission decision .dispatchIndeterminate
  sendError c .internalError (error.getD d.failedText) false (some streamId) requestId none

def dispatchAdmitted (admission : CommandAdmission AuthContext Principal)
    (source : CommandSource Value) (streamId : String) (requestId : Option String)
    (decision : AdmissionDecision) : Process Value Unit :=
  match decision.verdict with
  | .rejected rejection => do
      appendGatewayDecisionTrace source decision
        [.admission decision.admissionReceipt, .rejection rejection]
      sendError c (admissionErrorCodeForDecision rejection) (rejectionMessage rejection) false
        (some streamId) requestId (some rejection)
  | .authorized authorization _ =>
    tryCatch
      (do
        let value ← performDispatch d
        dispatchSucceeded c d admission source streamId requestId decision authorization value)
      (dispatchFailed c d admission source streamId requestId decision)

def dispatchCommand (source : CommandSource Value) (streamId : String)
    (requestId : Option String) (message : Json) (metadata : Option Json) : Process Value Unit :=
  tryCatch
    (match c.commandAdmission with
    | some admission => do
        let decision ← emitAdmissionDecision c admission d.kind streamId message metadata
        dispatchAdmitted c d admission source streamId requestId decision
    | none => do
        let value ← performDispatch d
        sendFrame c (d.response none value))
    fun error =>
      sendError c .internalError (error.getD d.failedText) false (some streamId) requestId none

end Admission

section Commands

variable (c : CommandConnection AuthContext Principal Value)

def commandStream (streamId : Option Json) (requestId : Option String) :
    Except (ResponseFrame Value) (String × CommandSource Value) :=
  match nonEmptyText streamId with
  | none =>
    .error (.error none requestId .invalidFrame "command requires a non-empty streamId." true none)
  | some id =>
    match c.streams id with
    | none =>
      .error (.error (some id) requestId .notFound
        "Cannot send command to an unsubscribed stream." true none)
    | some source => .ok (id, source)

def sendDispatch (streamId : String) (requestId : Option String) (message : Json)
    (send : Json → Except Thrown Unit) : Dispatch Value Unit :=
  { kind := .send
    perform := send message
    receipts := fun decision authorization _ =>
      .ok [.admission decision.admissionReceipt, .authorization authorization]
    response := fun authorization _ => .ack streamId requestId authorization
    failedFact := "Runtime command dispatch failed."
    failedText := "Runtime command failed." }

def askDispatch (streamId requestId : String) (message : Json) (timeoutMs : Option JsonNumber)
    (ask : Json → Option JsonNumber → Except Thrown Value) : Dispatch Value Value :=
  { kind := .ask
    perform := ask message timeoutMs
    receipts := fun decision authorization value => (c.redact value).map fun output =>
      [.admission decision.admissionReceipt, .authorization authorization,
        .result (resultReceipt authorization decision.principal c.now output)]
    response := fun authorization value => .reply streamId requestId value authorization
    failedFact := "Runtime ask dispatch failed."
    failedText := "Runtime ask failed." }

def sendCommand (streamId requestId message metadata : Option Json) : Process Value Unit :=
  let requestId := normalizeRequestId requestId
  match commandStream c streamId requestId with
  | .error frame => sendFrame c frame
  | .ok (streamId, source) =>
    if isValidMessage message = false then
      sendError c .invalidFrame "send requires a valid actor message." true (some streamId)
        requestId none
    else
      match source.send with
      | none =>
        sendError c .forbidden "Runtime scope does not accept commands." false (some streamId)
          requestId none
      | some send =>
        dispatchCommand c (sendDispatch streamId requestId (message.getD .null) send) source
          streamId requestId (message.getD .null) metadata

def askCommand (streamId requestId message timeoutMs metadata : Option Json) :
    Process Value Unit :=
  let normalizedRequestId := normalizeRequestId requestId
  match commandStream c streamId normalizedRequestId with
  | .error frame => sendFrame c frame
  | .ok (streamId, source) =>
    match normalizedRequestId with
    | none =>
      sendError c .invalidFrame "ask requires a non-empty requestId." true (some streamId) none
        none
    | some requestId =>
      if isValidMessage message = false then
        sendError c .invalidFrame "ask requires a valid actor message." true (some streamId)
          (some requestId) none
      else
        match normalizeTimeoutMs timeoutMs with
        | none =>
          sendError c .invalidFrame "timeoutMs must be a positive integer." true
            (some streamId) (some requestId) none
        | some timeoutMs =>
          match source.ask with
          | none =>
            sendError c .forbidden "Runtime scope does not accept ask commands." false
              (some streamId) (some requestId) none
          | some ask =>
            dispatchCommand c
              (askDispatch c streamId requestId (message.getD .null) timeoutMs ask) source
              streamId (some requestId) (message.getD .null) metadata

inductive CommandFrame
  | send (streamId requestId message metadata : Option Json)
  | ask (streamId requestId message timeoutMs metadata : Option Json)

def processCommand : CommandFrame → Process Value Unit
  | .send streamId requestId message metadata => sendCommand c streamId requestId message metadata
  | .ask streamId requestId message timeoutMs metadata =>
    askCommand c streamId requestId message timeoutMs metadata

end Commands

end ActorWeb.Gateway
