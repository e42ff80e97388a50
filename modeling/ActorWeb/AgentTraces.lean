import ActorWeb.ExecutionReceipts
import ActorWeb.JsonObjects

/-! Traces of agent executions: how receipts are checked, sorted and put together. -/

namespace ActorWeb.AgentTraces

open JsText

/-- What the traces take from the language: `Date.parse` (`none` where it gives `NaN`), and
`localeCompare`. -/
structure Engine where
  dateParse : String → Option Int
  localeCompare : String → String → Ordering

section Values

def hasNonEmptyString : Option Json → Bool
  | some (.str s) => trim s ≠ ""
  | _ => false

def isFiniteNumber : Option Json → Bool
  | some (.num _) => true
  | _ => false

def isValidIsoTimestamp (e : Engine) : Option Json → Bool
  | some (.str s) => trim s ≠ "" && (e.dateParse s).isSome
  | _ => false

variable (value : Option Json)

/-- A value is safe unless it is `undefined`. -/
def isJsonSafeValue : Bool := value.isSome

def isJsonObject : Option Json → Bool
  | some (.obj _) => true
  | _ => false

def isBoolean : Option Json → Bool
  | some (.bool _) => true
  | _ => false

def isOneOf (texts : List String) (value : Option Json) : Bool :=
  texts.any fun text => value = some (.str text)

def property (key : String) : Option Json := value.bind fun v => v.get key

def ifTruthy : Option Json := value.filter AgentExecution.JsValue.jsonTruthy

def one : Json := .num (.ofNat 1)

def contractVersion : Json := one

end Values

section Receipts

variable (receipt : Json)

def isTerminalReceipt : Bool :=
  isOneOf ["rejected", "succeeded", "cancelled", "stale_projection"] (receipt.get "status")

def isPostTerminalAllowed : Bool :=
  isOneOf ["reconciliation", "projection"] (receipt.get "receiptKind")

def hasMatchingOptionalIdentity (receiptValue traceValue : Option Json) : Bool :=
  receiptValue.isNone || traceValue.isNone || receiptValue = traceValue

variable (e : Engine)

def validateReceiptBaseShape (receipt trace : Json) : Bool :=
  (["receiptId", "recordId", "traceId", "actorId", "sessionId", "commandId", "receiptKind",
      "status"].all fun key => hasNonEmptyString (receipt.get key)) &&
    isFiniteNumber (receipt.get "sequence") && isValidIsoTimestamp e (receipt.get "occurredAt") &&
    (["traceId", "actorId", "sessionId", "commandId"].all fun key =>
      receipt.get key = trace.get key) &&
    (["intentId", "principalId", "attempt", "revision", "checkpointId"].all fun key =>
      hasMatchingOptionalIdentity (receipt.get key) (trace.get key)) &&
    (["intentId", "principalId", "checkpointId"].all fun key =>
      (receipt.get key).isNone || hasNonEmptyString (receipt.get key)) &&
    ["attempt", "revision"].all fun key =>
      (receipt.get key).isNone || isFiniteNumber (receipt.get key)

def isKnownReceiptStatus : Option Json → Bool :=
  isOneOf ["observed", "authorized", "rejected", "succeeded", "timeout", "retrying", "cancelled",
    "reconciled", "stale_projection", "partial_failure", "failed"]

def isKnownAdmissionStage : Option Json → Bool :=
  isOneOf ["schema-admitted", "domain-accepted", "execution-authorized"]

def isRecheckField : Option Json → Bool :=
  isOneOf ["command", "payload", "principal", "approval", "revision", "idempotency", "policy"]

def everyRecheckField : Option Json → Bool
  | some (.arr items) => items.all fun item => isRecheckField (some item)
  | _ => false

def validateReceiptKind (input : Json) : Bool :=
  let status := input.get "status"
  let nested (key name : String) := property (input.get key) name
  match input.get "receiptKind" with
  | some (.str "command_admission") =>
    isOneOf ["observed"] status && isKnownAdmissionStage (input.get "admissionStage") &&
      isJsonObject (input.get "admission") &&
      isOneOf ["descriptive_only"] (nested "admission" "discovery") &&
      isOneOf ["admitted", "rejected"] (nested "admission" "outcome") &&
      everyRecheckField (nested "admission" "rechecked") && isJsonSafeValue (input.get "admission")
  | some (.str "event") =>
    isOneOf ["observed"] status && isJsonObject (input.get "event") &&
      hasNonEmptyString (nested "event" "kind") && hasNonEmptyString (nested "event" "type") &&
      isJsonSafeValue (nested "event" "payload")
  | some (.str "authorization") =>
    isOneOf ["authorized"] status && isOneOf ["execution-authorized"] (input.get "admissionStage") &&
      hasNonEmptyString (input.get "principalId") && isJsonObject (input.get "principal") &&
      nested "principal" "id" = input.get "principalId" &&
      isJsonSafeValue (input.get "principal") && isJsonObject (input.get "authorization") &&
      hasNonEmptyString (nested "authorization" "policy") &&
      isOneOf ["approved", "denied"] (nested "authorization" "decision") &&
      isJsonSafeValue (input.get "authorization")
  | some (.str "rejection") =>
    isOneOf ["rejected"] status && isKnownAdmissionStage (input.get "admissionStage") &&
      isJsonObject (input.get "reason") && hasNonEmptyString (nested "reason" "code") &&
      ((nested "reason" "detail").isNone || hasNonEmptyString (nested "reason" "detail")) &&
      isJsonSafeValue (input.get "reason")
  | some (.str "result") =>
    isOneOf ["succeeded"] status && isJsonObject (input.get "result") &&
      ((nested "result" "output").isNone || isJsonSafeValue (nested "result" "output"))
  | some (.str "timeout") => isOneOf ["timeout"] status && isFiniteNumber (input.get "timeoutMs")
  | some (.str "retry") =>
    isOneOf ["retrying"] status && isJsonObject (input.get "retry") &&
      isFiniteNumber (nested "retry" "attempt") && hasNonEmptyString (nested "retry" "reason") &&
      hasNonEmptyString (nested "retry" "policy") &&
      input.get "attempt" = nested "retry" "attempt"
  | some (.str "cancellation") =>
    isOneOf ["cancelled"] status && isJsonObject (input.get "cancellation") &&
      hasNonEmptyString (nested "cancellation" "reason") &&
      hasNonEmptyString (nested "cancellation" "requestedBy")
  | some (.str "reconciliation") =>
    isOneOf ["reconciled"] status && isJsonObject (input.get "reconciliation") &&
      hasNonEmptyString (nested "reconciliation" "outcome") &&
      hasNonEmptyString (nested "reconciliation" "source")
  | some (.str "projection") =>
    isOneOf ["stale_projection"] status && hasNonEmptyString (input.get "checkpointId") &&
      isFiniteNumber (input.get "revision") && isJsonObject (input.get "projection") &&
      nested "projection" "checkpointId" = input.get "checkpointId" &&
      nested "projection" "revision" = input.get "revision" &&
      isFiniteNumber (nested "projection" "expectedRevision")
  | some (.str "effect_intent") =>
    isOneOf ["observed"] status && hasNonEmptyString (input.get "effectId") &&
      isFiniteNumber (input.get "attempt") && isJsonObject (input.get "effect") &&
      hasNonEmptyString (nested "effect" "effectType") &&
      isBoolean (nested "effect" "irreversible") &&
      hasNonEmptyString (nested "effect" "idempotencyScope") && isJsonSafeValue (input.get "effect")
  | some (.str "effect_attempt") =>
    isOneOf ["succeeded", "partial_failure", "failed", "timeout", "cancelled"] status &&
      hasNonEmptyString (input.get "effectId") && isFiniteNumber (input.get "attempt") &&
      isJsonObject (input.get "outcome") && hasNonEmptyString (nested "outcome" "code") &&
      ((nested "outcome" "detail").isNone || hasNonEmptyString (nested "outcome" "detail")) &&
      isJsonSafeValue (input.get "outcome")
  | _ => false

def validateReceiptShape (input trace : Json) : Bool :=
  isJsonObject (some input) && validateReceiptBaseShape e input trace &&
    isKnownReceiptStatus (input.get "status") &&
    (["effectId", "effectAttemptId", "provider", "idempotencyKey", "correlationId",
        "causationId"].all fun key =>
      (input.get key).isNone || hasNonEmptyString (input.get key)) &&
    validateReceiptKind input

def sequenceOf : ℚ :=
  match receipt.get "sequence" with
  | some (.num n) => n.value
  | _ => 0

def occurredAtOf (receipt : Json) : Int :=
  match receipt.get "occurredAt" with
  | some (.str s) => (e.dateParse s).getD 0
  | _ => 0

def receiptIdOf : String :=
  match receipt.get "receiptId" with
  | some (.str s) => s
  | _ => ""

def compareReceipts (left right : Json) : Ordering :=
  ((compare (sequenceOf left) (sequenceOf right)).then
    (compare (occurredAtOf e left) (occurredAtOf e right))).then
      (e.localeCompare (receiptIdOf left) (receiptIdOf right))

def sortAgentExecutionReceipts (receipts : List Json) : List Json :=
  receipts.mergeSort fun left right => compareReceipts e left right ≠ .gt

def findTerminalLineageViolation (terminalSeen : Bool) : List Json → Option Json
  | [] => none
  | receipt :: receipts =>
    if terminalSeen && !isPostTerminalAllowed receipt then some receipt
    else findTerminalLineageViolation (terminalSeen || isTerminalReceipt receipt) receipts

end Receipts

section Traces

def deriveTraceStatus (receipts : List Json) : Option Json :=
  match receipts.getLast? with
  | none => some (.str "pending")
  | some receipt =>
    if isOneOf ["observed"] (receipt.get "status") then some (.str "pending")
    else (receipt.get "status").filter fun status => isKnownReceiptStatus (some status)

def receiptsOf (trace : Json) : List Json :=
  match trace.get "receipts" with
  | some (.arr receipts) => receipts
  | _ => []

def createAgentExecutionTrace (e : Engine) (input : Json) : Json :=
  let receipts := sortAgentExecutionReceipts e (receiptsOf input)
  .object [("version", some contractVersion), ("schemaVersion", some contractVersion),
    ("traceId", input.get "traceId"), ("actorId", input.get "actorId"),
    ("sessionId", input.get "sessionId"), ("commandId", input.get "commandId"),
    ("intentId", ifTruthy (input.get "intentId")),
    ("principalId", ifTruthy (input.get "principalId")), ("attempt", input.get "attempt"),
    ("revision", input.get "revision"), ("checkpointId", ifTruthy (input.get "checkpointId")),
    ("correlationId", ifTruthy (input.get "correlationId")),
    ("causationId", ifTruthy (input.get "causationId")), ("receipts", some (.arr receipts)),
    ("status", deriveTraceStatus receipts), ("lastReceipt", receipts.getLast?)]

def traceIdentity (value : Json) : Json :=
  .object [("traceId", value.get "traceId"), ("actorId", value.get "actorId"),
    ("sessionId", value.get "sessionId"), ("commandId", value.get "commandId"),
    ("intentId", ifTruthy (value.get "intentId")),
    ("principalId", ifTruthy (value.get "principalId")), ("attempt", value.get "attempt"),
    ("revision", value.get "revision"), ("checkpointId", ifTruthy (value.get "checkpointId"))]

inductive ParseReason
  | invalidReceipts | unsupportedVersion | invalidTraceId | invalidActorId | invalidSessionId
  | invalidCommandId | invalidTerminalLineage

inductive ParseResult
  | ok (value : Json)
  | failed (reason : ParseReason) (value : Option Json) (receiptId : Option Json)

def versionOf (value : Json) : Option Json :=
  match value.get "schemaVersion" with
  | none | some .null => value.get "version"
  | some version => some version

def areValidReceipts (e : Engine) (value : Json) : Bool :=
  (receiptsOf value).all fun receipt => validateReceiptShape e receipt (traceIdentity value)

def isArray : Option Json → Bool
  | some (.arr _) => true
  | _ => false

def isObject : Json → Bool
  | .obj _ | .arr _ => true
  | _ => false

def shapeChecks (e : Engine) (value : Json) : List (Bool × ParseReason × Option Json) :=
  [(isObject value, .invalidReceipts, some value),
    (versionOf value = some contractVersion, .unsupportedVersion, versionOf value),
    (hasNonEmptyString (value.get "traceId"), .invalidTraceId, value.get "traceId"),
    (hasNonEmptyString (value.get "actorId"), .invalidActorId, value.get "actorId"),
    (hasNonEmptyString (value.get "sessionId"), .invalidSessionId, value.get "sessionId"),
    (hasNonEmptyString (value.get "commandId"), .invalidCommandId, value.get "commandId"),
    ((value.get "intentId").isNone || hasNonEmptyString (value.get "intentId"), .invalidReceipts,
      value.get "intentId"),
    ((value.get "principalId").isNone || hasNonEmptyString (value.get "principalId"),
      .invalidReceipts, value.get "principalId"),
    ((value.get "attempt").isNone || isFiniteNumber (value.get "attempt"), .invalidReceipts,
      value.get "attempt"),
    ((value.get "revision").isNone || isFiniteNumber (value.get "revision"), .invalidReceipts,
      value.get "revision"),
    ((value.get "checkpointId").isNone || hasNonEmptyString (value.get "checkpointId"),
      .invalidReceipts, value.get "checkpointId"),
    (isArray (value.get "receipts"), .invalidReceipts, value.get "receipts"),
    (areValidReceipts e value, .invalidReceipts, value.get "receipts")]

/-- Of what parsing hands on, creating a trace reads what it reads of the value itself. -/
def parseAgentExecutionTrace (e : Engine) (input : Json) : ParseResult :=
  match (shapeChecks e input).find? fun check => !check.1 with
  | some (_, reason, value) => .failed reason value none
  | none =>
    let trace := createAgentExecutionTrace e input
    match findTerminalLineageViolation false (receiptsOf trace) with
    | some receipt => .failed .invalidTerminalLineage (some input) (receipt.get "receiptId")
    | none => .ok trace

end Traces

end ActorWeb.AgentTraces
