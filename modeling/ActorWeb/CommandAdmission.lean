import ActorWeb.Redaction

/-! Which agent commands are admitted, and what their decisions hold. -/

namespace ActorWeb.Admission

open AgentExecution AgentTraces JsText

section Input

structure AgentExecutionAdmissionInput where
  (actorId sessionId : String)
  kind : CommandKind
  (message principal metadata : Option Json)
deriving DecidableEq

/-- The metadata of a command; the properties besides the id are not validated yet. -/
structure AgentExecutionCommandMetadata where
  commandId : String
  (intentId correlationId revision idempotencyKey capability approval policyVersion : Option Json)
deriving DecidableEq

structure AgentExecutionAdmissionPolicyContext where
  (actorId sessionId : String)
  kind : CommandKind
  (message principal : Json)
  metadata : AgentExecutionCommandMetadata

structure PolicyDecision where
  (outcome policy code detail : Option JsValue)

/-- The properties that are read of what an idempotency port returns; `settles` if `settle` is a
function. -/
structure ClaimResult where
  (outcome code detail : Option JsValue)
  settles : Bool

inductive Answer (α : Type)
  | thrown
  | notAnObject
  | object (value : α)

/-- The ports of an admission, and what it takes from its surroundings. -/
structure Ports where
  policy : Option (AgentExecutionAdmissionPolicyContext → Answer PolicyDecision)
  requireExplicitPolicy : Bool
  idempotency : Option (AgentExecutionAdmissionPolicyContext → Answer ClaimResult)
  nowTime : Int
  nowText : String
  dateParse : String → Option Int
  fallbackCommandIdSequence : Nat

structure AgentExecutionAdmissionDecision where
  ok : Bool
  principal : Json
  metadata : AgentExecutionCommandMetadata
  admissionReceipt : AdmissionReceipt
  authorizationReceipt : Option AuthorizationReceipt
  rejectionReceipt : Option RejectionReceipt
  claimed : Bool
deriving DecidableEq

end Input

section Credentials

mutual

def findCredentialBearingPath (path : String) : Json → Option String
  | .null => none
  | .bool _ => none
  | .num _ => none
  | .str _ => none
  | .arr items => findCredentialBearingItem path 0 items
  | .obj entries => findCredentialBearingEntry path entries

def findCredentialBearingItem (path : String) (index : Nat) : List Json → Option String
  | [] => none
  | item :: items =>
    match findCredentialBearingPath (path ++ "[" ++ toString index ++ "]") item with
    | some nestedPath => some nestedPath
    | none => findCredentialBearingItem path (index + 1) items

def findCredentialBearingEntry (path : String) : List (String × Json) → Option String
  | [] => none
  | (key, entry) :: entries =>
    if shouldRedactKey key = some .secret then some (path ++ "." ++ key)
    else
      match findCredentialBearingPath (path ++ "." ++ key) entry with
      | some nestedPath => some nestedPath
      | none => findCredentialBearingEntry path entries

end

end Credentials

section Metadata

variable (ports : Ports)

def fact (code detail : String) : OutcomeFact := { code, detail := some (.json (.str detail)) }

def invalidAdmissionReason (detail : String) : OutcomeFact := fact "invalid_command_metadata" detail

variable (metadata : Option Json)

def givenCommandId : Option String :=
  match property metadata "commandId" with
  | some (.str s) => if trim s ≠ "" then some (trim s) else none
  | _ => none

def createAgentExecutionFallbackCommandId (sequence : Nat) : String :=
  "command:" ++ ports.nowText ++ ":" ++ toString sequence

def createFallbackCommandMetadata : AgentExecutionCommandMetadata where
  commandId := (givenCommandId metadata).getD
    (createAgentExecutionFallbackCommandId ports (ports.fallbackCommandIdSequence + 1))
  intentId := none
  correlationId := none
  revision := none
  idempotencyKey := none
  capability := none
  approval := none
  policyVersion := none

def toCommandMetadata : AgentExecutionCommandMetadata where
  commandId := (givenCommandId metadata).getD
    (createAgentExecutionFallbackCommandId ports (ports.fallbackCommandIdSequence + 2))
  intentId := property metadata "intentId"
  correlationId := property metadata "correlationId"
  revision := property metadata "revision"
  idempotencyKey := property metadata "idempotencyKey"
  capability := property metadata "capability"
  approval := property metadata "approval"
  policyVersion := property metadata "policyVersion"

def validateAdmissionMetadataContainer : Option OutcomeFact :=
  if metadata.isNone || isJsonObject metadata then none
  else some (invalidAdmissionReason "metadata must be a JSON object when provided.")

def validateRawAdmissionMetadata : Option OutcomeFact :=
  let approval := property metadata "approval"
  if !isJsonObject metadata then none
  else if (property metadata "commandId").isSome &&
      !hasNonEmptyString (property metadata "commandId") then
    some (invalidAdmissionReason "commandId must be a non-empty string when provided.")
  else if (property metadata "idempotencyKey").isSome &&
      !hasNonEmptyString (property metadata "idempotencyKey") then
    some (invalidAdmissionReason "idempotencyKey must be a non-empty string when provided.")
  else if approval.isSome && (!isJsonObject approval || !isJsonSafeValue approval) then
    some (invalidAdmissionReason "approval must be a JSON-safe object when provided.")
  else if (property approval "expiresAt").isSome &&
      !hasNonEmptyString (property approval "expiresAt") then
    some (invalidAdmissionReason
      "approval.expiresAt must be a non-empty ISO-8601 timestamp when provided.")
  else
    (metadata.bind (findCredentialBearingPath "metadata")).map fun path =>
      fact "credential_bearing_metadata"
        (path ++ " is secret-bearing. Supply credential-free command metadata.")

end Metadata

section Validation

variable (ports : Ports)

def isRevision : Option Json → Bool
  | some (.num n) => n.value.isInt && decide (0 ≤ n.value)
  | _ => false

/-- What is wrong with the time at which an approval expires, which is a text by now. -/
def validateExpiry : Option Json → Option OutcomeFact
  | some (.str s) =>
    if s = "" then none
    else
      match ports.dateParse s with
      | none =>
        some (invalidAdmissionReason "approval.expiresAt must be a valid ISO-8601 timestamp.")
      | some expiresAt =>
        if expiresAt ≤ ports.nowTime then
          some (fact "approval_expired" "approval.expiresAt is in the past.")
        else none
  | _ => none

def validateCommandMetadata (metadata : AgentExecutionCommandMetadata) : Option OutcomeFact :=
  let invalidText (value : Option Json) := value.isSome && !hasNonEmptyString value
  let state := property metadata.approval "state"
  if invalidText metadata.intentId then
    some (invalidAdmissionReason "intentId must be a non-empty string when provided.")
  else if invalidText metadata.correlationId then
    some (invalidAdmissionReason "correlationId must be a non-empty string when provided.")
  else if metadata.revision.isSome && !isRevision metadata.revision then
    some (invalidAdmissionReason "revision must be a non-negative integer.")
  else if invalidText metadata.capability then
    some (invalidAdmissionReason "capability must be a non-empty string when provided.")
  else if invalidText metadata.policyVersion then
    some (invalidAdmissionReason "policyVersion must be a non-empty string when provided.")
  else if state.isSome && !isOneOf ["granted", "missing", "expired"] state then
    some (invalidAdmissionReason
      "approval.state must be granted, missing, or expired when provided.")
  else if metadata.approval.isSome && !isJsonSafeValue metadata.approval then
    some (invalidAdmissionReason "approval must be JSON-safe.")
  else validateExpiry ports (property metadata.approval "expiresAt")

def validateAdmissionInput (metadata : AgentExecutionCommandMetadata) (principal message : Json) :
    Option OutcomeFact :=
  if !hasNonEmptyString (message.get "type") then
    some (invalidAdmissionReason "message.type must be a non-empty string.")
  else if !isJsonSafeValue (some message) then
    some (invalidAdmissionReason "message must be JSON-safe.")
  else
    match findCredentialBearingPath "message" message with
    | some path =>
      some (fact "credential_bearing_message"
        (path ++ " is secret-bearing. Supply a credential-free command payload."))
    | none =>
      if !hasNonEmptyString (principal.get "id") then
        some (fact "missing_principal" "Command principal id is required.")
      else if !isOneOf ["authenticated", "local", "system"] (principal.get "kind") then
        some (invalidAdmissionReason
          "principal.kind must be one of authenticated, local, or system.")
      else if (principal.get "role").isSome && !hasNonEmptyString (principal.get "role") then
        some (invalidAdmissionReason "principal.role must be a non-empty string when provided.")
      else if !isJsonSafeValue (some principal) then
        some (invalidAdmissionReason "principal must be JSON-safe.")
      else
        match findCredentialBearingPath "principal" principal with
        | some path =>
          some (fact "credential_bearing_principal"
            (path ++ " is secret-bearing. Supply a credential-free principal."))
        | none => validateCommandMetadata ports metadata

end Validation

section Adapters

variable (ports : Ports) (context : AgentExecutionAdmissionPolicyContext)

def nonEmptyText : Option JsValue → Option String
  | some (.json (.str s)) => if trim s ≠ "" then some s else none
  | _ => none

def isText (text : String) (value : Option JsValue) : Bool := value = some (.json (.str text))

inductive PolicyVerdict
  | authorized (policy : String)
  | rejected (code : String) (detail : Option JsValue)

def validPolicyDecision (decision : PolicyDecision) : Option PolicyVerdict :=
  if isText "authorized" decision.outcome then
    (nonEmptyText decision.policy).map .authorized
  else if isText "rejected" decision.outcome then
    (nonEmptyText decision.policy).bind fun _ =>
      (nonEmptyText decision.code).map fun code =>
        .rejected code (decision.detail.filter JsValue.truthy)
  else none

inductive ClaimVerdict
  | available
  | duplicate (code : String) (detail : Option JsValue)

def validClaimResult (result : ClaimResult) : Option ClaimVerdict :=
  if isText "available" result.outcome then
    if result.settles then some .available else none
  else if isText "duplicate" result.outcome then
    if (result.code.isNone || (nonEmptyText result.code).isSome) &&
        (result.detail.isNone || (nonEmptyText result.detail).isSome) then
      some (.duplicate ((nonEmptyText result.code).getD "duplicate_idempotency_key")
        (result.detail.filter JsValue.truthy))
    else none
  else none

def isCloneable (reason : OutcomeFact) : Bool :=
  reason.detail.all fun detail =>
    match detail with
    | .json _ => true
    | .foreign _ cloneable => cloneable

def policyAdapterFailure : OutcomeFact :=
  fact "policy_adapter_failure" "Policy adapter threw before returning a decision."

def askPolicy : Answer PolicyDecision :=
  match ports.policy with
  | none =>
    .object
      { outcome := some (.json (.str "authorized"))
        policy := some (.json (.str "legacy-compatibility"))
        code := none
        detail := none }
  | some policy => policy context

/-- Whether the command claims its idempotency key, or why it must not run. -/
def claimIdempotency : Except OutcomeFact Bool :=
  match ports.idempotency with
  | none =>
    if context.metadata.idempotencyKey.isSome then
      .error (fact "missing_idempotency_adapter"
        "commandAdmission metadata.idempotencyKey requires an explicit idempotency adapter.")
    else .ok false
  | some idempotency =>
    let invalid := fact "idempotency_adapter_invalid_result"
      "Idempotency adapter must return a valid available settlement or duplicate decision."
    match idempotency context with
    | .thrown =>
      .error (fact "idempotency_adapter_failure"
        "Idempotency adapter threw before returning a claim result.")
    | .notAnObject => .error invalid
    | .object result =>
      match validClaimResult result with
      | none => .error invalid
      | some .available => .ok true
      | some (.duplicate code detail) => .error { code, detail }

/-- The policy that authorizes the command and whether it holds a claim, or why it is rejected. -/
def authorize : Except OutcomeFact (String × Bool) :=
  let invalid := fact "policy_adapter_invalid_result"
    "Policy adapter must return a valid authorized or rejected decision."
  if ports.requireExplicitPolicy && ports.policy.isNone then
    .error (fact "missing_policy_adapter" "commandAdmission requires an explicit policy adapter.")
  else
    match askPolicy ports context with
    | .thrown => .error policyAdapterFailure
    | .notAnObject => .error invalid
    | .object decision =>
      match validPolicyDecision decision with
      | none => .error invalid
      | some (.rejected code detail) =>
        -- A detail that cannot be cloned throws like the policy itself.
        if isCloneable { code, detail } then .error { code, detail }
        else .error policyAdapterFailure
      | some (.authorized policy) =>
        (claimIdempotency ports context).map fun claimed => (policy, claimed)

end Adapters

section Admit

variable (ports : Ports) (input : AgentExecutionAdmissionInput)

def admissionRechecks : List RecheckField :=
  [.command, .payload, .principal, .approval, .revision, .idempotency, .policy]

def principalOf : Json :=
  match input.principal with
  | some (.obj entries) => .obj entries
  | _ => .obj [("id", .str ""), ("kind", .str "system")]

def messageOf : Json :=
  match input.message with
  | some (.obj entries) => .obj entries
  | _ => .obj [("type", .str "")]

/-- What the receipts of an admission share, for the receipt of a kind with its sequence. -/
def createAdmissionTraceBase (principal : Json) (metadata : AgentExecutionCommandMetadata)
    (kind : String) (sequence : Nat) : ReceiptBase :=
  let traceId := "trace:" ++ input.sessionId ++ ":" ++ metadata.commandId
  { receiptId := traceId ++ ":" ++ kind ++ ":" ++ toString sequence
    recordId := traceId ++ ":record:" ++ kind ++ ":" ++ toString sequence
    traceId
    actorId := input.actorId
    sessionId := input.sessionId
    commandId := metadata.commandId
    intentId := ifTruthy metadata.intentId
    principalId := principal.get "id"
    revision := metadata.revision
    correlationId := ifTruthy metadata.correlationId
    idempotencyKey := ifTruthy metadata.idempotencyKey
    sequence
    occurredAt := ports.nowText }

def createExecutionAuthorizedReceipt (base : ReceiptBase) (principal : Json) (policy : String) :
    AuthorizationReceipt :=
  let principalId :=
    match base.principalId with
    | none | some .null => principal.get "id"
    | some id => some id
  { base := { base with principalId }
    principal
    policy }

def rejectedDecision (metadata : AgentExecutionCommandMetadata) (admissionStage : AdmissionStage)
    (reason : OutcomeFact) : AgentExecutionAdmissionDecision :=
  let base := createAdmissionTraceBase ports input (principalOf input) metadata
  { ok := false
    principal := redact (principalOf input)
    metadata
    admissionReceipt :=
      { base := base "admission" 1
        admissionStage
        outcome := .rejected
        rechecked := admissionRechecks }
    authorizationReceipt := none
    rejectionReceipt := some
      { base := base "rejection" 2
        admissionStage
        reason }
    claimed := false }

def authorizedDecision (metadata : AgentExecutionCommandMetadata) (policy : String) (claimed : Bool) :
    AgentExecutionAdmissionDecision :=
  let base := createAdmissionTraceBase ports input (principalOf input) metadata
  { ok := true
    principal := redact (principalOf input)
    metadata
    admissionReceipt :=
      { base := base "admission" 1
        admissionStage := .executionAuthorized
        outcome := .admitted
        rechecked := admissionRechecks }
    authorizationReceipt := some
      (createExecutionAuthorizedReceipt (base "authorization" 2) (redact (principalOf input)) policy)
    rejectionReceipt := none
    claimed }

def admitAgentExecutionCommand : AgentExecutionAdmissionDecision :=
  match (validateAdmissionMetadataContainer input.metadata).or
      (validateRawAdmissionMetadata input.metadata) with
  | some reason =>
    rejectedDecision ports input (createFallbackCommandMetadata ports input.metadata)
      .schemaAdmitted reason
  | none =>
    let metadata := toCommandMetadata ports input.metadata
    match validateAdmissionInput ports metadata (principalOf input) (messageOf input) with
    | some reason =>
      rejectedDecision ports input metadata
        (if reason.code = "invalid_command_metadata" then .schemaAdmitted
          else .executionAuthorized) reason
    | none =>
      let context : AgentExecutionAdmissionPolicyContext :=
        { actorId := input.actorId
          sessionId := input.sessionId
          kind := input.kind
          message := messageOf input
          principal := principalOf input
          metadata }
      match authorize ports context with
      | .error reason => rejectedDecision ports input metadata .executionAuthorized reason
      | .ok (policy, claimed) => authorizedDecision ports input metadata policy claimed

end Admit

end ActorWeb.Admission
