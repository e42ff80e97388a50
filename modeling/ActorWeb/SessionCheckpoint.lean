import ActorWeb.JsText
import ActorWeb.Json

namespace ActorWeb.SessionCheckpoint

open List JsText

structure ActorIdentity where
  (actorId sessionId turnId traceId commandId correlationId causationId : String)
deriving DecidableEq

inductive EffectPhase
  | none | intentRecorded | receiptRecorded | reconciliationRequired
deriving DecidableEq

structure EffectState where
  (effectId effectAttemptId : String)
  phase : EffectPhase
  irreversible : Bool
  (intent receipt : Option Json)
deriving DecidableEq

inductive Disposition
  | none | metadataOnly
deriving DecidableEq

structure Redaction where
  disposition : Disposition
  fields : List String
deriving DecidableEq

/-- The payload is `null` where there is none; `expiresAt` may be absent or `null`. -/
structure Continuation where
  (provider adapter : String)
  formatVersion : Nat
  payload : Json
  payloadBytes : Nat
  expiresAt : Option (Option String)
  redaction : Redaction
deriving DecidableEq

inductive ReconciliationStatus
  | clear | pending | required
deriving DecidableEq

structure Reconciliation where
  status : ReconciliationStatus
  reason : Option String
deriving DecidableEq

structure Envelope where
  (sessionId checkpointId : String)
  actor : ActorIdentity
  deterministic : Json
  effect : Option EffectState
  continuation : Option Continuation
  reconciliation : Reconciliation
  recordedAt : String
  (expiresAt staleAt : Option String)
  redactedFields : List String
  metadata : Option Json
deriving DecidableEq

def schemaVersion : Nat := 1

section Valid

def hasNonEmptyString (s : String) : Bool := trim s ≠ ""

def isValidIdentity (a : ActorIdentity) : Bool :=
  [a.actorId, a.sessionId, a.turnId, a.traceId, a.commandId, a.correlationId, a.causationId].all
    hasNonEmptyString

def isValidEffectState (e : EffectState) : Bool :=
  hasNonEmptyString e.effectId && hasNonEmptyString e.effectAttemptId

def getContinuationPayloadBytes (payload : Json) : Nat :=
  if payload = .null then 0 else (payload.stringify 0).utf8ByteSize

def isValidContinuation (c : Continuation) : Bool :=
  hasNonEmptyString c.provider && hasNonEmptyString c.adapter && decide (1 ≤ c.formatVersion) &&
    (c.expiresAt.bind id).all isIsoDateString && c.redaction.fields.all hasNonEmptyString &&
    match c.redaction.disposition with
    | .metadataOnly => decide (c.payload = .null)
    | .none => decide (c.payloadBytes = getContinuationPayloadBytes c.payload)

def isValidReconciliation (r : Reconciliation) : Bool := r.reason.all hasNonEmptyString

variable (e : Envelope)

/-- The checks of an envelope whose properties have their types, and what
`createAgentSessionCheckpointEnvelope` throws when one of them fails. -/
def Envelope.checks : List (Bool × String) :=
  [(hasNonEmptyString e.sessionId, "Agent session checkpoint requires a non-empty sessionId."),
    (hasNonEmptyString e.checkpointId,
      "Agent session checkpoint requires a non-empty checkpointId."),
    (isValidIdentity e.actor, "Agent session checkpoint actor identity is invalid."),
    (e.actor.sessionId = e.sessionId, "Actor sessionId must match the checkpoint sessionId."),
    (e.effect.all isValidEffectState, "Agent session checkpoint effect state is invalid."),
    (e.continuation.all isValidContinuation, "Agent session checkpoint continuation is invalid."),
    (isValidReconciliation e.reconciliation,
      "Agent session checkpoint reconciliation state is invalid."),
    (e.redactedFields.all hasNonEmptyString,
      "Agent session checkpoint redactedFields are invalid."),
    (isIsoDateString e.recordedAt,
      "Agent session checkpoint recordedAt must be an ISO timestamp."),
    (e.expiresAt.all isIsoDateString,
      "Agent session checkpoint expiresAt must be an ISO timestamp when provided."),
    (e.staleAt.all isIsoDateString,
      "Agent session checkpoint staleAt must be an ISO timestamp when provided.")]

def Envelope.valid : Bool := e.checks.all Prod.fst

/-- `createAgentSessionCheckpointEnvelope` throws at the first check that fails. -/
def createEnvelope : Except String Envelope :=
  match e.checks.find? fun check => !check.1 with
  | some check => .error check.2
  | none => .ok e

theorem createEnvelope_eq_ok {e created : Envelope} :
    createEnvelope e = .ok created ↔ e.valid = true ∧ created = e := by
  have hvalid : e.valid = true ↔ (e.checks.find? fun check => !check.1) = none := by
    simp only [Envelope.valid, all_eq_true, find?_eq_none, Bool.not_eq_eq_eq_not,
      Bool.not_true, Bool.not_eq_false]
  rw [createEnvelope, hvalid]
  cases e.checks.find? fun check => !check.1 with
  | none => simp [eq_comm]
  | some check => simp

end Valid

section Redact

def withPayloadField (fields : List String) : List String :=
  (fields ++ ["continuation.payload"]).eraseDups

def redactEnvelope (e : Envelope) : Envelope :=
  match e.continuation with
  | none => e
  | some c =>
    { e with
      continuation := some
        { c with
          payload := .null
          redaction :=
            { disposition := .metadataOnly, fields := withPayloadField c.redaction.fields } }
      redactedFields := withPayloadField e.redactedFields }

theorem withPayloadField_valid {fields : List String} (h : fields.all hasNonEmptyString = true) :
    (withPayloadField fields).all hasNonEmptyString = true := by
  rw [all_eq_true] at h ⊢
  intro s hs
  rw [withPayloadField, mem_eraseDups, mem_append] at hs
  obtain hs | hs := hs
  · exact h s hs
  · rw [mem_singleton.mp hs]
    decide +kernel

theorem redactEnvelope_valid {e : Envelope} (h : e.valid = true) : (redactEnvelope e).valid = true := by
  unfold redactEnvelope
  split
  case h_1 => exact h
  case h_2 c hc =>
    simp only [Envelope.valid, Envelope.checks, hc, Option.all_some, isValidContinuation,
      all_cons, all_nil, Bool.and_eq_true, Bool.and_true] at h ⊢
    obtain ⟨hsession, hcheckpoint, hactor, howner, heffect, ⟨⟨hcontinuation, hfields⟩, -⟩,
      hreconciliation, hredacted, hdates⟩ := h
    exact ⟨hsession, hcheckpoint, hactor, howner, heffect,
      ⟨⟨hcontinuation, withPayloadField_valid hfields⟩, by simp⟩, hreconciliation,
      withPayloadField_valid hredacted, hdates⟩

end Redact

section Encode

def EffectPhase.text : EffectPhase → String
  | .none => "none"
  | .intentRecorded => "intent_recorded"
  | .receiptRecorded => "receipt_recorded"
  | .reconciliationRequired => "reconciliation_required"

def Disposition.text : Disposition → String
  | .none => "none"
  | .metadataOnly => "metadata_only"

def ReconciliationStatus.text : ReconciliationStatus → String
  | .clear => "clear"
  | .pending => "pending"
  | .required => "required"

def optional (key : String) (value : Option Json) : List (String × Json) :=
  value.toList.map fun v => (key, v)

def nullable (value : Option String) : Json :=
  match value with
  | none => .null
  | some s => .str s

def strings (values : List String) : Json := .arr (values.map .str)

def natural (n : Nat) : Json := .num (.ofNat n)

def ActorIdentity.toJson (a : ActorIdentity) : Json :=
  .obj [("actorId", .str a.actorId), ("sessionId", .str a.sessionId), ("turnId", .str a.turnId),
    ("traceId", .str a.traceId), ("commandId", .str a.commandId),
    ("correlationId", .str a.correlationId), ("causationId", .str a.causationId)]

def EffectState.toJson (e : EffectState) : Json :=
  .obj ([("effectId", .str e.effectId), ("effectAttemptId", .str e.effectAttemptId),
    ("phase", .str e.phase.text), ("irreversible", .bool e.irreversible)] ++
    optional "intent" e.intent ++ optional "receipt" e.receipt)

def Redaction.toJson (r : Redaction) : Json :=
  .obj [("disposition", .str r.disposition.text), ("fields", strings r.fields)]

def Continuation.toJson (c : Continuation) : Json :=
  .obj ([("provider", .str c.provider), ("adapter", .str c.adapter),
    ("formatVersion", natural c.formatVersion), ("payload", c.payload),
    ("payloadBytes", natural c.payloadBytes)] ++ optional "expiresAt" (c.expiresAt.map nullable) ++
    [("redaction", c.redaction.toJson)])

def Reconciliation.toJson (r : Reconciliation) : Json :=
  .obj ([("status", .str r.status.text)] ++ optional "reason" (r.reason.map .str))

def Envelope.toJson (e : Envelope) : Json :=
  .obj ([("schemaVersion", natural schemaVersion), ("sessionId", .str e.sessionId),
    ("checkpointId", .str e.checkpointId), ("actor", e.actor.toJson),
    ("deterministic", e.deterministic),
    ("effect", (e.effect.map EffectState.toJson).getD .null),
    ("continuation", (e.continuation.map Continuation.toJson).getD .null),
    ("reconciliation", e.reconciliation.toJson), ("recordedAt", .str e.recordedAt),
    ("expiresAt", nullable e.expiresAt), ("staleAt", nullable e.staleAt),
    ("redactedFields", strings e.redactedFields)] ++ optional "metadata" e.metadata)

def serialize (e : Envelope) : String := e.toJson.stringify 2

end Encode

section Parse

def asString : Json → Option String
  | .str s => some s
  | _ => none

def asBool : Json → Option Bool
  | .bool b => some b
  | _ => none

def asNat : Json → Option Nat
  | .num n => n.asNat
  | _ => none

def asStrings : Json → Option (List String)
  | .arr items => items.mapM asString
  | _ => none

variable (v : Json)

def asPhase : Option EffectPhase :=
  [EffectPhase.none, .intentRecorded, .receiptRecorded, .reconciliationRequired].find? fun p =>
    v = .str p.text

def asDisposition : Option Disposition :=
  [Disposition.none, .metadataOnly].find? fun d => v = .str d.text

def asStatus : Option ReconciliationStatus :=
  [ReconciliationStatus.clear, .pending, .required].find? fun s => v = .str s.text

def field {α : Type} (key : String) (read : Json → Option α) : Option α :=
  (v.get key).bind read

def optionalField {α : Type} (key : String) (read : Json → Option α) :
    Option (Option α) :=
  match v.get key with
  | none => some none
  | some x => (read x).map some

def orNull {α : Type} (read : Json → Option α) (v : Json) : Option (Option α) :=
  if v = .null then some none else (read v).map some

def readIdentity : Option ActorIdentity := do
  let actorId ← field v "actorId" asString
  let sessionId ← field v "sessionId" asString
  let turnId ← field v "turnId" asString
  let traceId ← field v "traceId" asString
  let commandId ← field v "commandId" asString
  let correlationId ← field v "correlationId" asString
  let causationId ← field v "causationId" asString
  some { actorId, sessionId, turnId, traceId, commandId, correlationId, causationId }

def readEffectState : Option EffectState := do
  let effectId ← field v "effectId" asString
  let effectAttemptId ← field v "effectAttemptId" asString
  let phase ← field v "phase" asPhase
  let irreversible ← field v "irreversible" asBool
  let intent ← optionalField v "intent" some
  let receipt ← optionalField v "receipt" some
  some { effectId, effectAttemptId, phase, irreversible, intent, receipt }

def readRedaction : Option Redaction := do
  let disposition ← field v "disposition" asDisposition
  let fields ← field v "fields" asStrings
  some { disposition, fields }

def readContinuation : Option Continuation := do
  let provider ← field v "provider" asString
  let adapter ← field v "adapter" asString
  let formatVersion ← field v "formatVersion" asNat
  let payload ← field v "payload" some
  let payloadBytes ← field v "payloadBytes" asNat
  let expiresAt ← optionalField v "expiresAt" (orNull asString)
  let redaction ← field v "redaction" readRedaction
  some { provider, adapter, formatVersion, payload, payloadBytes, expiresAt, redaction }

def readReconciliation : Option Reconciliation := do
  let status ← field v "status" asStatus
  let reason ← optionalField v "reason" asString
  some { status, reason }

def readEnvelope : Option Envelope := do
  let sessionId ← field v "sessionId" asString
  let checkpointId ← field v "checkpointId" asString
  let actor ← field v "actor" readIdentity
  let deterministic ← field v "deterministic" some
  let effect ← field v "effect" (orNull readEffectState)
  let continuation ← field v "continuation" (orNull readContinuation)
  let reconciliation ← field v "reconciliation" readReconciliation
  let recordedAt ← field v "recordedAt" asString
  let expiresAt ← optionalField v "expiresAt" (orNull asString)
  let staleAt ← optionalField v "staleAt" (orNull asString)
  let redactedFields ← field v "redactedFields" asStrings
  let metadata ← optionalField v "metadata" some
  some
    { sessionId, checkpointId, actor, deterministic, effect, continuation, reconciliation,
      recordedAt, expiresAt := expiresAt.join, staleAt := staleAt.join, redactedFields, metadata }

inductive ParseResult
  | ok (envelope : Envelope)
  | corrupt
  | versionMismatch (schemaVersion : Option JsonNumber)

def asNumber : Json → Option JsonNumber
  | .num n => some n
  | _ => none

def parseEnvelope (input : Json) : ParseResult :=
  match input with
  | .obj _ | .arr _ =>
    if (input.get "schemaVersion").bind asNat ≠ some schemaVersion then
      .versionMismatch ((input.get "schemaVersion").bind asNumber)
    else
      match readEnvelope input with
      | some envelope => if envelope.valid then .ok envelope else .corrupt
      | none => .corrupt
  | _ => .corrupt

end Parse

section RoundTrip

theorem asNat_natural (n : Nat) : asNat (natural n) = some n := JsonNumber.asNat_ofNat n

theorem asStrings_strings (values : List String) : asStrings (strings values) = some values := by
  rw [strings, asStrings]
  induction values with
  | nil => rfl
  | cons s values ih => simp [asString, ih]

theorem asPhase_text (p : EffectPhase) : asPhase (.str p.text) = some p := by
  cases p <;> decide +kernel

theorem asDisposition_text (d : Disposition) : asDisposition (.str d.text) = some d := by
  cases d <;> decide +kernel

theorem asStatus_text (s : ReconciliationStatus) : asStatus (.str s.text) = some s := by
  cases s <;> decide +kernel

theorem orNull_nullable (value : Option String) : orNull asString (nullable value) = some value := by
  cases value <;> simp [nullable, orNull, asString]

theorem readIdentity_toJson (a : ActorIdentity) : readIdentity a.toJson = some a := by
  simp [readIdentity, ActorIdentity.toJson, field, Json.get, asString]

theorem readEffectState_toJson (e : EffectState) : readEffectState e.toJson = some e := by
  obtain ⟨effectId, effectAttemptId, phase, irreversible, intent, receipt⟩ := e
  cases intent <;> cases receipt <;>
    simp [readEffectState, EffectState.toJson, optional, field, optionalField, Json.get, asString,
      asBool, asPhase_text]

theorem readRedaction_toJson (r : Redaction) : readRedaction r.toJson = some r := by
  simp [readRedaction, Redaction.toJson, field, Json.get, asDisposition_text, asStrings_strings]

theorem readContinuation_toJson (c : Continuation) : readContinuation c.toJson = some c := by
  obtain ⟨provider, adapter, formatVersion, payload, payloadBytes, expiresAt, redaction⟩ := c
  cases expiresAt <;>
    simp [readContinuation, Continuation.toJson, optional, field, optionalField, Json.get, asString,
      asNat_natural, orNull_nullable, readRedaction_toJson]

theorem readReconciliation_toJson (r : Reconciliation) : readReconciliation r.toJson = some r := by
  obtain ⟨status, reason⟩ := r
  cases reason <;>
    simp [readReconciliation, Reconciliation.toJson, optional, field, optionalField, Json.get,
      asString, asStatus_text]

theorem orNull_effect (effect : Option EffectState) :
    orNull readEffectState ((effect.map EffectState.toJson).getD .null) = some effect := by
  cases effect with
  | none => rfl
  | some e =>
    rw [Option.map_some, Option.getD_some, orNull, if_neg (by simp [EffectState.toJson]),
      readEffectState_toJson, Option.map_some]

theorem orNull_continuation (continuation : Option Continuation) :
    orNull readContinuation ((continuation.map Continuation.toJson).getD .null) =
      some continuation := by
  cases continuation with
  | none => rfl
  | some c =>
    rw [Option.map_some, Option.getD_some, orNull, if_neg (by simp [Continuation.toJson]),
      readContinuation_toJson, Option.map_some]

theorem readEnvelope_toJson (e : Envelope) : readEnvelope e.toJson = some e := by
  obtain ⟨sessionId, checkpointId, actor, deterministic, effect, continuation, reconciliation,
    recordedAt, expiresAt, staleAt, redactedFields, metadata⟩ := e
  cases metadata <;>
    simp [readEnvelope, Envelope.toJson, optional, field, optionalField, Json.get, asString,
      readIdentity_toJson, orNull_effect, orNull_continuation, readReconciliation_toJson,
      orNull_nullable, asStrings_strings]

theorem parseEnvelope_toJson {e : Envelope} (h : e.valid = true) : parseEnvelope e.toJson = .ok e := by
  have hversion : (e.toJson.get "schemaVersion").bind asNat = some schemaVersion := by
    simp [Envelope.toJson, Json.get, asNat_natural]
  have hread := readEnvelope_toJson e
  obtain ⟨entries, heq⟩ : ∃ entries, e.toJson = .obj entries := ⟨_, rfl⟩
  rw [heq] at hversion hread ⊢
  simp only [parseEnvelope]
  rw [if_neg fun hne => hne hversion, hread]
  simp only [h, if_true]

end RoundTrip

end ActorWeb.SessionCheckpoint
