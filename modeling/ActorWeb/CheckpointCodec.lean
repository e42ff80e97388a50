import ActorWeb.SessionCheckpoint

/-! Checkpoint envelopes as untyped values: how they are checked, copied and read back. -/

namespace ActorWeb.CheckpointCodec

open Option hiding all_eq_true all_map

open List hiding asString

open SessionCheckpoint JsText

section Checks

def hasNonEmptyString (value : Option Json) : Bool :=
  (value.bind asString).any SessionCheckpoint.hasNonEmptyString

def isIsoDateString (value : Option Json) : Bool := (value.bind asString).any JsText.isIsoDateString

def isOptionalDate (value : Option Json) : Bool :=
  value.all fun v => v = .null || isIsoDateString (some v)

/-- A value is JSON unless it is `undefined`. -/
def isJsonValue (value : Option Json) : Bool := value.isSome

def isObject : Option Json → Bool
  | some (.obj _) | some (.arr _) => true
  | _ => false

def isBoolean (value : Option Json) : Bool := (value.bind asBool).isSome

def isInteger (least : Nat) (value : Option Json) : Bool :=
  value.any fun v => (asNat v).any fun n => v = natural n && least ≤ n

def isOneOf (texts : List String) (value : Option Json) : Bool :=
  texts.any fun text => value = some (.str text)

def isValidStringArray : Option Json → Bool
  | some (.arr items) => items.all fun item => hasNonEmptyString (some item)
  | _ => false

def identityKeys : List String :=
  ["actorId", "sessionId", "turnId", "traceId", "commandId", "correlationId", "causationId"]

def isValidIdentity : Option Json → Bool
  | some candidate =>
    isObject (some candidate) && identityKeys.all fun key => hasNonEmptyString (candidate.get key)
  | none => false

def isValidEffectState : Option Json → Bool
  | none => false
  | some .null => true
  | some candidate =>
    isObject (some candidate) && hasNonEmptyString (candidate.get "effectId") &&
      hasNonEmptyString (candidate.get "effectAttemptId") &&
      isOneOf ["none", "intent_recorded", "receipt_recorded", "reconciliation_required"]
        (candidate.get "phase") &&
      isBoolean (candidate.get "irreversible") &&
      ((candidate.get "intent").isNone || isJsonValue (candidate.get "intent")) &&
      ((candidate.get "receipt").isNone || isJsonValue (candidate.get "receipt"))

def isValidRedaction : Option Json → Bool
  | some redaction =>
    isObject (some redaction) &&
      ((redaction.get "disposition" = some (.str "none") &&
          isValidStringArray (redaction.get "fields")) ||
        (redaction.get "disposition" = some (.str "metadata_only") &&
          isValidStringArray (redaction.get "fields")))
  | none => false

def isValidContinuation : Option Json → Bool
  | none => false
  | some .null => true
  | some candidate =>
    if isObject (some candidate) && hasNonEmptyString (candidate.get "provider") &&
        hasNonEmptyString (candidate.get "adapter") &&
        isInteger 1 (candidate.get "formatVersion") &&
        (candidate.get "payload" = some .null || isJsonValue (candidate.get "payload")) &&
        isInteger 0 (candidate.get "payloadBytes") && isOptionalDate (candidate.get "expiresAt") &&
        isValidRedaction (candidate.get "redaction") then
      if (candidate.get "redaction").any fun redaction =>
          redaction.get "disposition" = some (.str "metadata_only") then
        candidate.get "payload" = some .null
      else
        candidate.get "payloadBytes" =
          (candidate.get "payload").map fun payload => natural (getContinuationPayloadBytes payload)
    else false

def isValidReconciliation : Option Json → Bool
  | some candidate =>
    isObject (some candidate) &&
      isOneOf ["clear", "pending", "required"] (candidate.get "status") &&
      ((candidate.get "reason").isNone || hasNonEmptyString (candidate.get "reason"))
  | none => false

end Checks

section Copies

def pick (v : Json) (keys : List String) : List (String × Json) :=
  keys.flatMap fun key => SessionCheckpoint.optional key (v.get key)

def cloneActorIdentity (value : Json) : Json := .obj (pick value identityKeys)

def cloneEffectState (value : Json) : Json :=
  if value = .null then .null
  else .obj (pick value
    ["effectId", "effectAttemptId", "phase", "irreversible", "intent", "receipt"])

def cloneRedaction (value : Json) : Json := .obj (pick value ["disposition", "fields"])

def cloneContinuation (value : Json) : Json :=
  if value = .null then .null
  else .obj (pick value
    ["provider", "adapter", "formatVersion", "payload", "payloadBytes", "expiresAt"] ++
      SessionCheckpoint.optional "redaction" ((value.get "redaction").map cloneRedaction))

def cloneReconciliation (value : Json) : Json := .obj (pick value ["status", "reason"])

def normalizeEnvelope (input : Json) : Json :=
  .obj ([("schemaVersion", natural schemaVersion)] ++ pick input ["sessionId", "checkpointId"] ++
    SessionCheckpoint.optional "actor" ((input.get "actor").map cloneActorIdentity) ++
    pick input ["deterministic"] ++
    SessionCheckpoint.optional "effect" ((input.get "effect").map cloneEffectState) ++
    SessionCheckpoint.optional "continuation" ((input.get "continuation").map cloneContinuation) ++
    SessionCheckpoint.optional "reconciliation" ((input.get "reconciliation").map cloneReconciliation) ++
    pick input ["recordedAt"] ++
    [("expiresAt", (input.get "expiresAt").getD .null),
      ("staleAt", (input.get "staleAt").getD .null),
      ("redactedFields", (input.get "redactedFields").getD (.arr []))] ++
    pick input ["metadata"])

end Copies

section Codec

def createChecks (input : Json) : List (Bool × String) :=
  [(hasNonEmptyString (input.get "sessionId"),
      "Agent session checkpoint requires a non-empty sessionId."),
    (hasNonEmptyString (input.get "checkpointId"),
      "Agent session checkpoint requires a non-empty checkpointId."),
    (isValidIdentity (input.get "actor"), "Agent session checkpoint actor identity is invalid."),
    ((input.get "actor").bind (fun actor => actor.get "sessionId") = input.get "sessionId",
      "Actor sessionId must match the checkpoint sessionId."),
    (isValidEffectState (input.get "effect"), "Agent session checkpoint effect state is invalid."),
    (isValidContinuation (input.get "continuation"),
      "Agent session checkpoint continuation is invalid."),
    (isValidReconciliation (input.get "reconciliation"),
      "Agent session checkpoint reconciliation state is invalid."),
    ((input.get "redactedFields").isNone || isValidStringArray (input.get "redactedFields"),
      "Agent session checkpoint redactedFields are invalid."),
    (isIsoDateString (input.get "recordedAt"),
      "Agent session checkpoint recordedAt must be an ISO timestamp."),
    (isOptionalDate (input.get "expiresAt"),
      "Agent session checkpoint expiresAt must be an ISO timestamp when provided."),
    (isOptionalDate (input.get "staleAt"),
      "Agent session checkpoint staleAt must be an ISO timestamp when provided."),
    (isJsonValue (input.get "deterministic"),
      "Agent session checkpoint deterministic state must be JSON-safe."),
    ((input.get "metadata").isNone || isJsonValue (input.get "metadata"),
      "Agent session checkpoint metadata must be JSON-safe.")]

def createAgentSessionCheckpointEnvelope (input : Json) : Except String Json :=
  match (createChecks input).find? fun check => !check.1 with
  | some check => .error check.2
  | none => .ok (normalizeEnvelope input)

inductive ParseResult
  | ok (value : Json)
  | corrupt
  | versionMismatch (schemaVersion : Option JsonNumber)

def parseChecks (candidate : Json) : List Bool :=
  [hasNonEmptyString (candidate.get "sessionId"), hasNonEmptyString (candidate.get "checkpointId"),
    isValidIdentity (candidate.get "actor"),
    (candidate.get "actor").bind (fun actor => actor.get "sessionId") = candidate.get "sessionId",
    isJsonValue (candidate.get "deterministic"), isValidEffectState (candidate.get "effect"),
    isValidContinuation (candidate.get "continuation"),
    isValidReconciliation (candidate.get "reconciliation"),
    isIsoDateString (candidate.get "recordedAt"), isOptionalDate (candidate.get "expiresAt"),
    isOptionalDate (candidate.get "staleAt"), isValidStringArray (candidate.get "redactedFields"),
    (candidate.get "metadata").isNone || isJsonValue (candidate.get "metadata")]

/-- Of what parsing hands on, `normalizeEnvelope` reads what it reads of the value itself. -/
def parseAgentSessionCheckpointEnvelope (input : Json) : ParseResult :=
  if !isObject (some input) then .corrupt
  else if input.get "schemaVersion" ≠ some (natural schemaVersion) then
    .versionMismatch ((input.get "schemaVersion").bind asNumber)
  else if (parseChecks input).all id then .ok (normalizeEnvelope input)
  else .corrupt

end Codec

section Read

variable {value : Option Json} {least : Nat}

theorem hasNonEmptyString_iff : hasNonEmptyString value = true ↔
    ∃ s, value = some (.str s) ∧ SessionCheckpoint.hasNonEmptyString s = true := by
  obtain _ | (_ | _ | _ | _ | _ | _) := value <;> simp [hasNonEmptyString, asString]

theorem isIsoDateString_iff : isIsoDateString value = true ↔
    ∃ s, value = some (.str s) ∧ JsText.isIsoDateString s = true := by
  obtain _ | (_ | _ | _ | _ | _ | _) := value <;> simp [isIsoDateString, asString]

theorem isOptionalDate_iff : isOptionalDate value = true ↔
    ∃ date : Option (Option String), value = date.map nullable ∧
      (date.bind id).all JsText.isIsoDateString = true := by
  constructor
  · intro h
    obtain _ | v := value
    · exact ⟨none, rfl, rfl⟩
    · simp only [isOptionalDate, all_some, Bool.or_eq_true, decide_eq_true_eq,
        isIsoDateString_iff] at h
      obtain rfl | ⟨s, hs, hdate⟩ := h
      · exact ⟨some none, rfl, rfl⟩
      · exact ⟨some (some s), hs, hdate⟩
  · rintro ⟨date, rfl, hdate⟩
    obtain _ | _ | s := date
    · rfl
    · rfl
    · simp only [isOptionalDate, nullable, map_some, all_some, Bool.or_eq_true]
      exact .inr (isIsoDateString_iff.mpr ⟨s, rfl, hdate⟩)

theorem isBoolean_iff : isBoolean value = true ↔ ∃ b, value = some (.bool b) := by
  obtain _ | (_ | _ | _ | _ | _ | _) := value <;> simp [isBoolean, asBool]

theorem isInteger_iff : isInteger least value = true ↔
    ∃ n, value = some (natural n) ∧ least ≤ n := by
  constructor
  · intro h
    obtain ⟨v, rfl, hv⟩ := (Option.any_eq_true _ _).mp h
    obtain ⟨n, -, hn⟩ := (Option.any_eq_true _ _).mp hv
    simp only [Bool.and_eq_true, decide_eq_true_eq] at hn
    exact ⟨n, congrArg some hn.1, hn.2⟩
  · rintro ⟨n, rfl, hn⟩
    simp [isInteger, asNat_natural, hn]

theorem isValidStringArray_iff : isValidStringArray value = true ↔
    ∃ texts, value = some (strings texts) ∧
      texts.all SessionCheckpoint.hasNonEmptyString = true := by
  constructor
  · intro h
    obtain _ | (_ | _ | _ | _ | items | _) := value
    any_goals cases h
    rw [isValidStringArray] at h
    suffices ∃ texts : List String, items = texts.map .str ∧
        texts.all SessionCheckpoint.hasNonEmptyString = true by
      obtain ⟨texts, rfl, htexts⟩ := this
      exact ⟨texts, rfl, htexts⟩
    induction items with
    | nil => exact ⟨[], rfl, rfl⟩
    | cons item items ih =>
      rw [all_cons, Bool.and_eq_true] at h
      obtain ⟨text, htext, hnonempty⟩ := hasNonEmptyString_iff.mp h.1
      obtain ⟨texts, rfl, htexts⟩ := ih h.2
      exact ⟨text :: texts, by rw [some.inj htext, map_cons],
        by rw [all_cons, hnonempty, htexts, Bool.and_self]⟩
  · rintro ⟨texts, rfl, htexts⟩
    simp only [all_eq_true] at htexts
    simp only [strings, isValidStringArray, all_map, all_eq_true, Function.comp]
    exact fun text htext => hasNonEmptyString_iff.mpr ⟨text, rfl, htexts text htext⟩

theorem isOneOf_iff (texts : List String) : isOneOf texts value = true ↔
    ∃ text ∈ texts, value = some (.str text) := by
  simp [isOneOf]

end Read

section Typed

variable {v : Json}

theorem identity_typed {value : Option Json} (h : isValidIdentity value = true) :
    ∃ a : ActorIdentity, value.map cloneActorIdentity = some a.toJson ∧
      value.bind (fun actor => actor.get "sessionId") = some (.str a.sessionId) ∧
      SessionCheckpoint.isValidIdentity a = true := by
  obtain _ | v := value
  · cases h
  · simp only [isValidIdentity, identityKeys, all_cons, all_nil, Bool.and_eq_true,
      hasNonEmptyString_iff] at h
    obtain ⟨-, ⟨actorId, hactor, ha⟩, ⟨sessionId, hsession, hs⟩, ⟨turnId, hturn, ht⟩,
      ⟨traceId, htrace, hr⟩, ⟨commandId, hcommand, hc⟩, ⟨correlationId, hcorrelation, hl⟩,
      ⟨causationId, hcausation, hu⟩, -⟩ := h
    refine ⟨⟨actorId, sessionId, turnId, traceId, commandId, correlationId, causationId⟩, ?_,
      hsession, ?_⟩
    · simp [cloneActorIdentity, pick, identityKeys, SessionCheckpoint.optional, hactor, hsession,
        hturn, htrace, hcommand, hcorrelation, hcausation, ActorIdentity.toJson]
    · simp [SessionCheckpoint.isValidIdentity, ha, hs, ht, hr, hc, hl, hu]

theorem phase_typed {value : Option Json}
    (h : isOneOf ["none", "intent_recorded", "receipt_recorded", "reconciliation_required"] value =
      true) : ∃ phase : EffectPhase, value = some (.str phase.text) := by
  obtain ⟨text, htext, rfl⟩ := (isOneOf_iff _).mp h
  simp only [mem_cons, not_mem_nil, or_false] at htext
  obtain rfl | rfl | rfl | rfl := htext
  · exact ⟨.none, rfl⟩
  · exact ⟨.intentRecorded, rfl⟩
  · exact ⟨.receiptRecorded, rfl⟩
  · exact ⟨.reconciliationRequired, rfl⟩

theorem effect_typed {value : Option Json} (h : isValidEffectState value = true) :
    ∃ effect : Option EffectState, SessionCheckpoint.optional "effect" (value.map cloneEffectState) =
        [("effect", (effect.map EffectState.toJson).getD .null)] ∧
      effect.all SessionCheckpoint.isValidEffectState = true := by
  unfold isValidEffectState at h
  split at h
  case h_1 => cases h
  case h_2 => exact ⟨none, rfl, rfl⟩
  case h_3 candidate hnull =>
    replace hnull : candidate ≠ .null := fun heq => hnull heq
    simp only [Bool.and_eq_true, hasNonEmptyString_iff, isBoolean_iff] at h
    obtain ⟨⟨⟨⟨⟨⟨-, effectId, heffect, he⟩, effectAttemptId, hattempt, ha⟩, hphase⟩, irreversible,
      hirreversible⟩, -⟩, -⟩ := h
    obtain ⟨phase, hphase⟩ := phase_typed hphase
    refine ⟨some ⟨effectId, effectAttemptId, phase, irreversible, candidate.get "intent",
      candidate.get "receipt"⟩, ?_, ?_⟩
    · simp [cloneEffectState, hnull, pick, SessionCheckpoint.optional, heffect, hattempt, hphase, hirreversible,
        EffectState.toJson]
    · simp [SessionCheckpoint.isValidEffectState, he, ha]

theorem redaction_typed {value : Option Json} (h : isValidRedaction value = true) :
    ∃ r : Redaction, value.map cloneRedaction = some r.toJson ∧
      (value.any fun redaction => redaction.get "disposition" = some (.str "metadata_only")) =
        decide (r.disposition = .metadataOnly) ∧
      r.fields.all SessionCheckpoint.hasNonEmptyString = true := by
  obtain _ | v := value
  · cases h
  · simp only [isValidRedaction, Bool.and_eq_true, Bool.or_eq_true, decide_eq_true_eq,
      isValidStringArray_iff] at h
    obtain ⟨-, ⟨hdisposition, fields, hfields, hall⟩ | ⟨hdisposition, fields, hfields, hall⟩⟩ := h
    · refine ⟨⟨.none, fields⟩, ?_, ?_, hall⟩
      · simp [cloneRedaction, pick, SessionCheckpoint.optional, hdisposition, hfields, Redaction.toJson,
          Disposition.text]
      · simp [hdisposition]
    · refine ⟨⟨.metadataOnly, fields⟩, ?_, ?_, hall⟩
      · simp [cloneRedaction, pick, SessionCheckpoint.optional, hdisposition, hfields, Redaction.toJson,
          Disposition.text]
      · simp [hdisposition]

theorem natural_injective {m n : Nat} (h : natural m = natural n) : m = n := by
  have hread := congrArg asNat h
  rw [asNat_natural, asNat_natural] at hread
  exact some.inj hread

theorem continuation_typed {value : Option Json} (h : isValidContinuation value = true) :
    ∃ continuation : Option Continuation, SessionCheckpoint.optional "continuation" (value.map cloneContinuation) =
        [("continuation", (continuation.map Continuation.toJson).getD .null)] ∧
      continuation.all SessionCheckpoint.isValidContinuation = true := by
  unfold isValidContinuation at h
  split at h
  case h_1 => cases h
  case h_2 => exact ⟨none, rfl, rfl⟩
  case h_3 candidate hnull =>
    replace hnull : candidate ≠ .null := fun heq => hnull heq
    split at h
    case isFalse => cases h
    case isTrue hfields =>
      simp only [Bool.and_eq_true, hasNonEmptyString_iff, isInteger_iff, isOptionalDate_iff,
        Bool.or_eq_true, decide_eq_true_eq, isJsonValue, isSome_iff_exists] at hfields
      obtain ⟨⟨⟨⟨⟨⟨⟨-, provider, hprovider, hp⟩, adapter, hadapter, ha⟩, formatVersion, hversion,
        hv⟩, hpayload⟩, payloadBytes, hbytes, -⟩, expiresAt, hexpires, hdate⟩, hredaction⟩ := hfields
      obtain ⟨redaction, hclone, honly, hr⟩ := redaction_typed hredaction
      obtain ⟨payload, hpayload⟩ : ∃ payload, candidate.get "payload" = some payload :=
        hpayload.elim (fun hnone => ⟨_, hnone⟩) id
      rw [honly] at h
      refine ⟨some ⟨provider, adapter, formatVersion, payload, payloadBytes, expiresAt, redaction⟩,
        ?_, ?_⟩
      · simp [cloneContinuation, hnull, pick, SessionCheckpoint.optional, hprovider, hadapter, hversion, hpayload,
          hbytes, hexpires, hclone, Continuation.toJson]
      · simp only [all_some, SessionCheckpoint.isValidContinuation, hp, ha, hv, hdate, hr,
          decide_true, Bool.true_and, Bool.and_true]
        cases hdisposition : redaction.disposition with
        | none =>
          simp only [hdisposition, hpayload, hbytes, map_some, some.injEq,
            decide_eq_true_eq, reduceCtorEq, decide_false, Bool.false_eq_true, if_false] at h ⊢
          exact natural_injective h
        | metadataOnly =>
          simpa [hdisposition, hpayload] using h

theorem reconciliation_typed {value : Option Json} (h : isValidReconciliation value = true) :
    ∃ r : Reconciliation, value.map cloneReconciliation = some r.toJson ∧
      SessionCheckpoint.isValidReconciliation r = true := by
  obtain _ | v := value
  · cases h
  · simp only [isValidReconciliation, Bool.and_eq_true, Bool.or_eq_true, isNone_iff_eq_none,
      hasNonEmptyString_iff] at h
    obtain ⟨⟨-, hstatus⟩, hreason⟩ := h
    obtain ⟨status, hstatus⟩ : ∃ status : ReconciliationStatus,
        v.get "status" = some (.str status.text) := by
      obtain ⟨text, htext, hstatus⟩ := (isOneOf_iff _).mp hstatus
      simp only [mem_cons, not_mem_nil, or_false] at htext
      obtain rfl | rfl | rfl := htext
      · exact ⟨.clear, hstatus⟩
      · exact ⟨.pending, hstatus⟩
      · exact ⟨.required, hstatus⟩
    obtain hreason | ⟨reason, hreason, hr⟩ := hreason
    · exact ⟨⟨status, none⟩, by simp [cloneReconciliation, pick, SessionCheckpoint.optional, hstatus,
        hreason, Reconciliation.toJson], rfl⟩
    · exact ⟨⟨status, some reason⟩, by simp [cloneReconciliation, pick, SessionCheckpoint.optional,
        hstatus, hreason, Reconciliation.toJson], hr⟩

theorem normalizeEnvelope_typed (h : (createChecks v).all Prod.fst = true) :
    ∃ e : Envelope, e.valid = true ∧ normalizeEnvelope v = e.toJson := by
  simp only [createChecks, all_cons, all_nil, Bool.and_eq_true, Bool.and_true,
    hasNonEmptyString_iff, isIsoDateString_iff, isOptionalDate_iff, decide_eq_true_eq, isJsonValue,
    isSome_iff_exists, Bool.or_eq_true, isNone_iff_eq_none,
    isValidStringArray_iff] at h
  obtain ⟨⟨sessionId, hsession, hs⟩, ⟨checkpointId, hcheckpoint, hc⟩, hactor, howner, heffect,
    hcontinuation, hreconciliation, hfields, ⟨recordedAt, hrecorded, hr⟩, ⟨expiresAt, hexpires, he⟩,
    ⟨staleAt, hstale, ht⟩, ⟨deterministic, hdeterministic⟩, -⟩ := h
  obtain ⟨actor, hactor, hid, ha⟩ := identity_typed hactor
  obtain ⟨effect, heffect, hf⟩ := effect_typed heffect
  obtain ⟨continuation, hcontinuation, hn⟩ := continuation_typed hcontinuation
  obtain ⟨reconciliation, hreconciliation, hl⟩ := reconciliation_typed hreconciliation
  have howner : actor.sessionId = sessionId := by
    rw [hid, hsession] at howner
    exact Json.str.inj (some.inj howner)
  obtain ⟨redactedFields, hfields, hd⟩ : ∃ texts : List String,
      (v.get "redactedFields").getD (.arr []) = strings texts ∧
        texts.all SessionCheckpoint.hasNonEmptyString = true := by
    obtain hnone | ⟨texts, htexts, hall⟩ := hfields
    · exact ⟨[], by rw [hnone]; rfl, rfl⟩
    · exact ⟨texts, by rw [htexts, getD_some], hall⟩
  have hdate (date : Option (Option String)) : (date.map nullable).getD .null = nullable date.join := by
    obtain _ | _ | s := date <;> rfl
  refine ⟨⟨sessionId, checkpointId, actor, deterministic, effect, continuation, reconciliation,
    recordedAt, expiresAt.join, staleAt.join, redactedFields, v.get "metadata"⟩, ?_, ?_⟩
  · rw [bind_id_eq_join] at he ht
    simp [Envelope.valid, Envelope.checks, hs, hc, ha, howner, hf, hn, hl, hd, hr, he, ht]
  · simp only [normalizeEnvelope, pick, flatMap_cons, flatMap_nil, hsession, hcheckpoint,
      hactor, hdeterministic, heffect, hcontinuation, hreconciliation, hrecorded, hexpires, hstale,
      hfields, hdate]
    simp [SessionCheckpoint.optional, Envelope.toJson]

end Typed

section Encoded

theorem identity_encoded (a : ActorIdentity) : cloneActorIdentity a.toJson = a.toJson ∧
    isValidIdentity (some a.toJson) = SessionCheckpoint.isValidIdentity a := by
  constructor
  · simp [cloneActorIdentity, pick, identityKeys, SessionCheckpoint.optional, ActorIdentity.toJson,
      Json.get]
  · simp [isValidIdentity, identityKeys, isObject, ActorIdentity.toJson, Json.get,
      hasNonEmptyString, asString, SessionCheckpoint.isValidIdentity]

theorem effect_encoded (effect : Option EffectState) :
    cloneEffectState ((effect.map EffectState.toJson).getD .null) =
        (effect.map EffectState.toJson).getD .null ∧
      isValidEffectState (some ((effect.map EffectState.toJson).getD .null)) =
        effect.all SessionCheckpoint.isValidEffectState := by
  obtain _ | ⟨effectId, effectAttemptId, phase, irreversible, intent, receipt⟩ := effect
  · exact ⟨rfl, rfl⟩
  · have hphase : isOneOf ["none", "intent_recorded", "receipt_recorded", "reconciliation_required"]
        (some (.str phase.text)) = true := by cases phase <;> rfl
    constructor
    · cases intent <;> cases receipt <;>
        simp [cloneEffectState, pick, SessionCheckpoint.optional, EffectState.toJson, Json.get]
    · cases intent <;> cases receipt <;>
        simp [isValidEffectState, isObject, EffectState.toJson, SessionCheckpoint.optional, Json.get,
          hasNonEmptyString, asString, hphase, isBoolean, asBool, isJsonValue,
          SessionCheckpoint.isValidEffectState]

theorem strings_encoded (texts : List String) : isValidStringArray (some (strings texts)) =
    texts.all SessionCheckpoint.hasNonEmptyString := by
  simp only [strings, isValidStringArray, all_map]
  rfl

theorem date_encoded (date : Option String) : isOptionalDate (some (nullable date)) =
    date.all JsText.isIsoDateString := by
  cases date <;> simp [isOptionalDate, nullable, isIsoDateString, asString]

theorem redaction_encoded (r : Redaction) : cloneRedaction r.toJson = r.toJson ∧
    r.toJson.get "disposition" = some (.str r.disposition.text) ∧
    isValidRedaction (some r.toJson) = r.fields.all SessionCheckpoint.hasNonEmptyString := by
  obtain ⟨disposition, fields⟩ := r
  refine ⟨?_, by simp [Redaction.toJson, Json.get], ?_⟩
  · simp [cloneRedaction, pick, SessionCheckpoint.optional, Redaction.toJson, Json.get]
  · cases disposition <;>
      simp [isValidRedaction, isObject, Redaction.toJson, Disposition.text, Json.get,
        strings_encoded]

theorem continuation_get (c : Continuation) : c.toJson.get "provider" = some (.str c.provider) ∧
    c.toJson.get "adapter" = some (.str c.adapter) ∧
    c.toJson.get "formatVersion" = some (natural c.formatVersion) ∧
    c.toJson.get "payload" = some c.payload ∧
    c.toJson.get "payloadBytes" = some (natural c.payloadBytes) ∧
    c.toJson.get "expiresAt" = c.expiresAt.map nullable ∧
    c.toJson.get "redaction" = some c.redaction.toJson := by
  obtain ⟨provider, adapter, formatVersion, payload, payloadBytes, expiresAt, redaction⟩ := c
  cases expiresAt <;> simp [Continuation.toJson, SessionCheckpoint.optional, Json.get]

theorem continuation_valid (c : Continuation) :
    isValidContinuation (some c.toJson) = SessionCheckpoint.isValidContinuation c := by
  have hnatural (m n : Nat) : natural m = natural n ↔ m = n :=
    ⟨natural_injective, fun h => h ▸ rfl⟩
  have htext (s : String) : hasNonEmptyString (some (.str s)) =
      SessionCheckpoint.hasNonEmptyString s := rfl
  have hinteger (least n : Nat) : isInteger least (some (natural n)) = decide (least ≤ n) := by
    simp [isInteger, asNat_natural]
  have hdate : isOptionalDate (c.expiresAt.map nullable) =
      (c.expiresAt.bind id).all JsText.isIsoDateString := by
    cases c.expiresAt with
    | none => rfl
    | some date => exact date_encoded date
  obtain ⟨-, hdisposition, hredaction⟩ := redaction_encoded c.redaction
  obtain ⟨hprovider, hadapter, hversion, hpayload, hbytes, hexpires, hr⟩ := continuation_get c
  obtain ⟨entries, hentries⟩ : ∃ entries, c.toJson = .obj entries := ⟨_, rfl⟩
  rw [hentries] at hprovider hadapter hversion hpayload hbytes hexpires hr ⊢
  have hnull : Json.obj entries = .null → False := fun heq => Json.noConfusion heq
  rw [isValidContinuation.eq_3 _ hnull, hprovider, hadapter, hversion, hpayload, hbytes, hexpires,
    hr, hredaction, hinteger, hinteger, hdate, htext, htext, any_some, hdisposition,
    SessionCheckpoint.isValidContinuation]
  generalize c.redaction.fields.all SessionCheckpoint.hasNonEmptyString = fieldsValid
  cases c.redaction.disposition <;>
    simp [Disposition.text, isObject, isJsonValue, hnatural]

theorem continuation_encoded (continuation : Option Continuation) :
    cloneContinuation ((continuation.map Continuation.toJson).getD .null) =
        (continuation.map Continuation.toJson).getD .null ∧
      isValidContinuation (some ((continuation.map Continuation.toJson).getD .null)) =
        continuation.all SessionCheckpoint.isValidContinuation := by
  obtain _ | c := continuation
  · exact ⟨rfl, rfl⟩
  · refine ⟨?_, continuation_valid c⟩
    obtain ⟨hprovider, hadapter, hversion, hpayload, hbytes, hexpires, hr⟩ := continuation_get c
    have hnull : c.toJson ≠ .null := by simp [Continuation.toJson]
    simp only [map_some, getD_some, cloneContinuation, if_neg hnull, pick,
      flatMap_cons, flatMap_nil, hprovider, hadapter, hversion, hpayload, hbytes, hexpires,
      hr, (redaction_encoded c.redaction).1]
    simp [Continuation.toJson, SessionCheckpoint.optional]

theorem reconciliation_encoded (r : Reconciliation) : cloneReconciliation r.toJson = r.toJson ∧
    isValidReconciliation (some r.toJson) = SessionCheckpoint.isValidReconciliation r := by
  obtain ⟨status, reason⟩ := r
  have hstatus : isOneOf ["clear", "pending", "required"] (some (.str status.text)) = true := by
    cases status <;> rfl
  cases reason <;>
    simp [cloneReconciliation, pick, SessionCheckpoint.optional, Reconciliation.toJson, Json.get,
      isValidReconciliation, isObject, hstatus, hasNonEmptyString, asString,
      SessionCheckpoint.isValidReconciliation]

theorem envelope_get (e : Envelope) : e.toJson.get "schemaVersion" = some (natural schemaVersion) ∧
    e.toJson.get "sessionId" = some (.str e.sessionId) ∧
    e.toJson.get "checkpointId" = some (.str e.checkpointId) ∧
    e.toJson.get "actor" = some e.actor.toJson ∧
    e.toJson.get "deterministic" = some e.deterministic ∧
    e.toJson.get "effect" = some ((e.effect.map EffectState.toJson).getD .null) ∧
    e.toJson.get "continuation" = some ((e.continuation.map Continuation.toJson).getD .null) ∧
    e.toJson.get "reconciliation" = some e.reconciliation.toJson ∧
    e.toJson.get "recordedAt" = some (.str e.recordedAt) ∧
    e.toJson.get "expiresAt" = some (nullable e.expiresAt) ∧
    e.toJson.get "staleAt" = some (nullable e.staleAt) ∧
    e.toJson.get "redactedFields" = some (strings e.redactedFields) ∧
    e.toJson.get "metadata" = e.metadata := by
  refine ⟨?_, ?_, ?_, ?_, ?_, ?_, ?_, ?_, ?_, ?_, ?_, ?_, ?_⟩
  any_goals simp [Envelope.toJson, Json.get]
  cases e.metadata <;> simp [SessionCheckpoint.optional]

theorem normalizeEnvelope_encoded (e : Envelope) : normalizeEnvelope e.toJson = e.toJson := by
  obtain ⟨-, hsession, hcheckpoint, hactor, hdeterministic, heffect, hcontinuation, hreconciliation,
    hrecorded, hexpires, hstale, hfields, hmetadata⟩ := envelope_get e
  simp only [normalizeEnvelope, pick, flatMap_cons, flatMap_nil, hsession, hcheckpoint,
    hactor, hdeterministic, heffect, hcontinuation, hreconciliation, hrecorded, hexpires, hstale,
    hfields, hmetadata, map_some, getD_some, (identity_encoded e.actor).1,
    (effect_encoded e.effect).1, (continuation_encoded e.continuation).1,
    (reconciliation_encoded e.reconciliation).1]
  simp [SessionCheckpoint.optional, Envelope.toJson]

theorem createChecks_encoded {e : Envelope} (h : e.valid = true) :
    (createChecks e.toJson).all Prod.fst = true := by
  have hid : e.actor.toJson.get "sessionId" = some (.str e.actor.sessionId) := by
    simp [ActorIdentity.toJson, Json.get]
  have htext (s : String) : hasNonEmptyString (some (.str s)) =
      SessionCheckpoint.hasNonEmptyString s := rfl
  have hrecordedAt : isIsoDateString (some (.str e.recordedAt)) =
      JsText.isIsoDateString e.recordedAt := rfl
  simp only [Envelope.valid, Envelope.checks, all_cons, all_nil, Bool.and_eq_true,
    Bool.and_true, decide_eq_true_eq] at h
  obtain ⟨hs, hc, ha, howner, hf, hn, hl, hd, hr, he, ht⟩ := h
  obtain ⟨-, hsession, hcheckpoint, hactor, hdeterministic, heffect, hcontinuation, hreconciliation,
    hrecorded, hexpires, hstale, hfields, hmetadata⟩ := envelope_get e
  simp only [createChecks, all_cons, all_nil, hsession, hcheckpoint, hactor,
    hdeterministic, heffect, hcontinuation, hreconciliation, hrecorded, hexpires, hstale, hfields,
    hmetadata, bind_some, hid, htext, hrecordedAt, (identity_encoded e.actor).2,
    (effect_encoded e.effect).2, (continuation_encoded e.continuation).2,
    (reconciliation_encoded e.reconciliation).2, strings_encoded, date_encoded, hs, hc, ha, howner,
    hf, hn, hl, hd, hr, he, ht]
  cases e.metadata <;> rfl

end Encoded

section RoundTrip

variable {input w : Json} {e : Envelope}

theorem create_eq_ok : createAgentSessionCheckpointEnvelope input = .ok w ↔
    (createChecks input).all Prod.fst = true ∧ w = normalizeEnvelope input := by
  have hvalid : (createChecks input).all Prod.fst = true ↔
      ((createChecks input).find? fun check => !check.1) = none := by
    simp only [all_eq_true, find?_eq_none, Bool.not_eq_eq_eq_not, Bool.not_true,
      Bool.not_eq_false]
  rw [createAgentSessionCheckpointEnvelope, hvalid]
  cases (createChecks input).find? fun check => !check.1 with
  | none => simp [eq_comm]
  | some check => simp

theorem parseChecks_iff {items : Json} (h : input.get "redactedFields" = some items) :
    (parseChecks input).all id = true ↔ (createChecks input).all Prod.fst = true := by
  simp only [parseChecks, createChecks, all_cons, all_nil, id, Bool.and_eq_true,
    Bool.and_true, h, isNone_some, Bool.false_or]
  constructor
  · rintro ⟨hs, hc, ha, howner, hdeterministic, hf, hn, hl, hr, he, ht, hd, hm⟩
    exact ⟨hs, hc, ha, howner, hf, hn, hl, hd, hr, he, ht, hdeterministic, hm⟩
  · rintro ⟨hs, hc, ha, howner, hf, hn, hl, hd, hr, he, ht, hdeterministic, hm⟩
    exact ⟨hs, hc, ha, howner, hdeterministic, hf, hn, hl, hr, he, ht, hd, hm⟩

theorem parse_iff_create {items : List Json}
    (hversion : input.get "schemaVersion" = some (natural schemaVersion))
    (hfields : input.get "redactedFields" = some (.arr items)) :
    parseAgentSessionCheckpointEnvelope input = .ok w ↔
      createAgentSessionCheckpointEnvelope input = .ok w := by
  obtain ⟨entries, rfl⟩ : ∃ entries, input = .obj entries := by
    cases input
    case obj entries => exact ⟨entries, rfl⟩
    all_goals cases hversion
  rw [create_eq_ok, ← parseChecks_iff hfields, parseAgentSessionCheckpointEnvelope,
    if_neg (by simp [isObject]), if_neg (fun hne => hne hversion)]
  split
  case isTrue h => simp [h, eq_comm]
  case isFalse h => simp [h]

theorem parse_encoded (h : e.valid = true) :
    parseAgentSessionCheckpointEnvelope e.toJson = .ok e.toJson := by
  obtain ⟨hversion, -, -, -, -, -, -, -, -, -, -, hfields, -⟩ := envelope_get e
  exact (parse_iff_create hversion hfields).mpr
    (create_eq_ok.mpr ⟨createChecks_encoded h, (normalizeEnvelope_encoded e).symm⟩)

theorem created_typed (h : createAgentSessionCheckpointEnvelope input = .ok w) :
    ∃ e : Envelope, e.valid = true ∧ w = e.toJson := by
  obtain ⟨hchecks, rfl⟩ := create_eq_ok.mp h
  exact normalizeEnvelope_typed hchecks

def Reparsed (e : Envelope) : Prop :=
  ∀ gap, (Json.parse (e.toJson.stringify gap)).map parseAgentSessionCheckpointEnvelope =
    some (.ok e.toJson)

theorem reparsed_of_valid (h : e.valid = true) : Reparsed e := by
  intro gap
  rw [Json.parse_stringify, map_some, parse_encoded h]

theorem eraseDups_idem (xs : List String) : xs.eraseDups.eraseDups = xs.eraseDups := by
  induction hn : xs.length using Nat.strong_induction_on generalizing xs with
  | h n ih =>
    cases xs with
    | nil => rfl
    | cons x xs =>
      have hlt : (xs.filter fun b => !b == x).length < n := by
        have hle := length_filter_le (fun b => !b == x) xs
        rw [← hn, length_cons]
        omega
      have hkept : (xs.filter fun b => !b == x).eraseDups.filter (fun b => !b == x) =
          (xs.filter fun b => !b == x).eraseDups := by
        refine filter_eq_self.mpr fun y hy => ?_
        exact (mem_filter.mp (mem_eraseDups.mp hy)).2
      rw [eraseDups_cons, eraseDups_cons, hkept, ih _ hlt _ rfl]

theorem withPayloadField_idem (fields : List String) :
    withPayloadField (withPayloadField fields) = withPayloadField fields := by
  have hmem : "continuation.payload" ∈ withPayloadField fields := by
    simp [withPayloadField, mem_eraseDups]
  have hremoved : ["continuation.payload"].removeAll (withPayloadField fields) = [] := by
    simp [List.removeAll, hmem]
  rw [withPayloadField.eq_1 (withPayloadField fields), eraseDups_append, hremoved,
    eraseDups_nil, append_nil, withPayloadField, eraseDups_idem]

theorem redactEnvelope_idem (e : Envelope) : redactEnvelope (redactEnvelope e) = redactEnvelope e := by
  cases hc : e.continuation with
  | none => simp [redactEnvelope, hc]
  | some c => simp [redactEnvelope, hc, withPayloadField_idem]

/-- A session without an effect or a continuation, its properties in another order. -/
def idleInput : Json :=
  .obj [("checkpointId", .str "checkpoint"), ("sessionId", .str "session"),
    ("actor", .obj (identityKeys.map fun key =>
      (key, .str (if key = "sessionId" then "session" else key)))),
    ("recordedAt", .str "2025-01-01T00:00:00.000Z"), ("deterministic", .arr [.null]),
    ("effect", .null), ("continuation", .null),
    ("reconciliation", .obj [("status", .str "clear")])]

end RoundTrip

end ActorWeb.CheckpointCodec
