import ActorWeb.AgentTraceNormalForm
import ActorWeb.Redaction

/-! Sanitized traces are traces of the same receipts. -/

namespace ActorWeb.AgentTraces

open List Std

section Sanitize

def receiptBaseKeys : List String :=
  ["version", "receiptId", "traceId", "recordId", "actorId", "sessionId", "commandId", "intentId",
    "principalId", "sequence", "attempt", "revision", "checkpointId", "receiptKind", "status",
    "occurredAt", "correlationId", "causationId", "effectId", "effectAttemptId", "provider",
    "idempotencyKey"]

def sanitizedFields (receipt : Json) : List (String × Option Json) :=
  let kept (key : String) := (key, receipt.get key)
  let redacted (key : String) := (key, some (redactAgentExecutionValue (receipt.get key)))
  match receipt.get "receiptKind" with
  | some (.str "command_admission") => [kept "admissionStage", redacted "admission"]
  | some (.str "event") => [redacted "event"]
  | some (.str "authorization") =>
    [kept "admissionStage", redacted "principal", redacted "authorization"]
  | some (.str "rejection") => [kept "admissionStage", redacted "reason"]
  | some (.str "result") => [redacted "result"]
  | some (.str "timeout") => [kept "timeoutMs"]
  | some (.str "retry") => [redacted "retry"]
  | some (.str "cancellation") => [redacted "cancellation"]
  | some (.str "reconciliation") => [redacted "reconciliation"]
  | some (.str "projection") => [redacted "projection"]
  | some (.str "effect_intent") => [redacted "effect"]
  | some (.str "effect_attempt") => [redacted "outcome"]
  | _ => []

def sanitizeAgentExecutionReceipt (receipt : Json) : Json :=
  .object ((receiptBaseKeys.map fun key => (key, receipt.get key)) ++ sanitizedFields receipt)

def sanitizedInput (trace : Json) : Json :=
  .object [("version", trace.get "version"), ("schemaVersion", trace.get "schemaVersion"),
    ("traceId", trace.get "traceId"), ("actorId", trace.get "actorId"),
    ("sessionId", trace.get "sessionId"), ("commandId", trace.get "commandId"),
    ("intentId", ifTruthy (trace.get "intentId")),
    ("principalId", ifTruthy (trace.get "principalId")), ("attempt", trace.get "attempt"),
    ("revision", trace.get "revision"), ("checkpointId", ifTruthy (trace.get "checkpointId")),
    ("correlationId", ifTruthy (trace.get "correlationId")),
    ("causationId", ifTruthy (trace.get "causationId")),
    ("receipts", some (.arr ((receiptsOf trace).map sanitizeAgentExecutionReceipt)))]

def sanitizeAgentExecutionTrace (e : Engine) (trace : Json) : Json :=
  createAgentExecutionTrace e (sanitizedInput trace)

end Sanitize

section Receipts

variable {e : Engine} {receipt v : Json} {key : String}

theorem sanitizedFields_nodup (receipt : Json) :
    (((receiptBaseKeys.map fun key => (key, receipt.get key)) ++ sanitizedFields receipt).map
      Prod.fst).Nodup := by
  have hbase : (receiptBaseKeys.map fun key => (key, receipt.get key)).map Prod.fst =
      receiptBaseKeys := by simp [Function.comp_def]
  rw [map_append, hbase]
  unfold sanitizedFields
  dsimp only
  split
  all_goals
    simp only [map_cons, map_nil]
    decide +kernel

theorem sanitized_get (receipt : Json) (key : String) :
    (sanitizeAgentExecutionReceipt receipt).get key =
      (((receiptBaseKeys.map fun key => (key, receipt.get key)) ++ sanitizedFields receipt).lookup
        key).join :=
  Json.get_object (sanitizedFields_nodup receipt) key

theorem sanitized_get_base (h : key ∈ receiptBaseKeys) :
    (sanitizeAgentExecutionReceipt receipt).get key = receipt.get key := by
  have hlookup : ∀ keys : List String, key ∈ keys →
      (keys.map fun key => (key, receipt.get key)).lookup key = some (receipt.get key) := by
    intro keys
    induction keys with
    | nil => exact fun h => absurd h not_mem_nil
    | cons first keys ih =>
      intro h
      by_cases hkey : key = first
      · subst hkey
        exact lookup_cons_self
      · rw [map_cons, lookup_cons, beq_false_of_ne hkey]
        exact ih ((mem_cons.mp h).resolve_left hkey)
  rw [sanitized_get, lookup_append, hlookup _ h, Option.some_or, Option.join_some]

theorem sanitized_get_payload (h : key ∉ receiptBaseKeys) :
    (sanitizeAgentExecutionReceipt receipt).get key = ((sanitizedFields receipt).lookup key).join := by
  have hlookup : ∀ keys : List String, key ∉ keys →
      (keys.map fun key => (key, receipt.get key)).lookup key = none := by
    intro keys
    induction keys with
    | nil => exact fun _ => rfl
    | cons first keys ih =>
      intro h
      rw [mem_cons, not_or] at h
      rw [map_cons, lookup_cons, beq_false_of_ne h.1]
      exact ih h.2
  rw [sanitized_get, lookup_append, hlookup _ h, Option.none_or]

def checkedNames : List String :=
  ["discovery", "outcome", "rechecked", "kind", "type", "payload", "id", "policy", "decision", "code",
    "detail", "output", "attempt", "reason", "requestedBy", "source", "checkpointId", "revision",
    "expectedRevision", "effectType", "irreversible", "idempotencyScope"]

theorem checkedNames_plain : ∀ name ∈ checkedNames, name ≠ "__proto__" ∧ shouldRedactKey name = none := by
  decide +kernel

theorem property_redacted {name : String} (h : name ∈ checkedNames) (value : Option Json) :
    property (some (redactAgentExecutionValue value)) name = (property value name).map redact := by
  obtain ⟨hproto, hplain⟩ := checkedNames_plain name h
  cases value with
  | none => rfl
  | some v =>
    rw [redactAgentExecutionValue, property, Option.bind_some, get_redact hproto]
    refine congrFun (congrArg Option.map (funext fun entry => ?_)) _
    rw [redactEntry, hplain]

variable {value : Option Json}

theorem hasNonEmptyString_redact : hasNonEmptyString (value.map redact) = hasNonEmptyString value := by
  obtain _ | (_ | _ | _ | _ | _ | _) := value <;> rfl

theorem isFiniteNumber_redact : isFiniteNumber (value.map redact) = isFiniteNumber value := by
  obtain _ | (_ | _ | _ | _ | _ | _) := value <;> rfl

theorem isBoolean_redact : isBoolean (value.map redact) = isBoolean value := by
  obtain _ | (_ | _ | _ | _ | _ | _) := value <;> rfl

theorem isOneOf_redact (texts : List String) : isOneOf texts (value.map redact) = isOneOf texts value := by
  obtain _ | (_ | _ | _ | _ | _ | _) := value <;> simp [isOneOf, redact]

theorem isJsonObject_redacted :
    isJsonObject (some (redactAgentExecutionValue value)) = isJsonObject value := by
  obtain _ | (_ | _ | _ | _ | _ | _) := value <;> rfl

theorem everyRecheckField_redact (h : everyRecheckField value = true) :
    everyRecheckField (value.map redact) = true := by
  obtain _ | (_ | _ | _ | _ | items | _) := value
  any_goals cases h
  have hitems : ∀ items : List Json, (items.all fun item => isRecheckField (some item)) = true →
      ((redactItems items).all fun item => isRecheckField (some item)) = true := by
    intro items
    induction items with
    | nil => exact fun h => h
    | cons item items ih =>
      intro h
      rw [all_cons, Bool.and_eq_true] at h
      rw [redactItems, all_cons, Bool.and_eq_true]
      have hitem : isRecheckField ((some item).map redact) = isRecheckField (some item) :=
        isOneOf_redact _
      exact ⟨hitem.trans h.1, ih h.2⟩
  exact hitems items h

theorem eq_redact {other : Option Json} (h : value = other)
    (hplain : hasNonEmptyString other = true ∨ isFiniteNumber other = true) :
    value.map redact = other := by
  subst h
  obtain _ | (_ | _ | _ | _ | _ | _) := value
  any_goals rfl
  all_goals exact absurd hplain (by simp [hasNonEmptyString, isFiniteNumber])

theorem validateReceiptKind_sanitized (h : validateReceiptKind receipt = true) :
    validateReceiptKind (sanitizeAgentExecutionReceipt receipt) = true := by
  have hget : ∀ {key : String}, key ∉ receiptBaseKeys →
      (sanitizeAgentExecutionReceipt receipt).get key =
        ((sanitizedFields receipt).lookup key).join := sanitized_get_payload
  have hkind : (sanitizeAgentExecutionReceipt receipt).get "receiptKind" = receipt.get "receiptKind" :=
    sanitized_get_base (by decide)
  unfold validateReceiptKind at h
  dsimp only at h
  split at h
  case h_13 => cases h
  all_goals
    rename_i heq
    rw [validateReceiptKind, hkind, heq]
    dsimp only
    simp (disch := decide) only [hget, sanitized_get_base]
    simp only [sanitizedFields, heq, lookup_cons, String.reduceBEq, Option.join_some]
    simp (disch := decide) only [property_redacted, isJsonObject_redacted, isOneOf_redact,
      hasNonEmptyString_redact, isFiniteNumber_redact, isBoolean_redact, isJsonSafeValue,
      Option.isSome_map, Option.isNone_map, Option.isSome_some, Bool.and_eq_true, decide_eq_true_eq,
      Bool.and_true] at h ⊢
  case h_1 =>
    obtain ⟨⟨h, hr⟩, -⟩ := h
    exact ⟨h, everyRecheckField_redact hr⟩
  case h_3 =>
    obtain ⟨⟨⟨⟨⟨⟨⟨⟨⟨hs, ha⟩, hi⟩, hp⟩, he⟩, -⟩, ho⟩, hc⟩, hd⟩, -⟩ := h
    exact ⟨⟨⟨⟨⟨⟨⟨hs, ha⟩, hi⟩, hp⟩, eq_redact he (.inl hi)⟩, ho⟩, hc⟩, hd⟩
  case h_7 =>
    obtain ⟨⟨⟨⟨ho, ha⟩, hr⟩, hp⟩, he⟩ := h
    exact ⟨⟨⟨⟨ho, ha⟩, hr⟩, hp⟩, he.trans (eq_redact rfl (.inr ha)).symm⟩
  case h_10 =>
    obtain ⟨⟨⟨⟨⟨⟨hs, hc⟩, hr⟩, ho⟩, hec⟩, her⟩, hx⟩ := h
    exact ⟨⟨⟨⟨⟨⟨hs, hc⟩, hr⟩, ho⟩, eq_redact hec (.inl hc)⟩, eq_redact her (.inr hr)⟩, hx⟩
  case h_4 | h_11 | h_12 => exact h.1
  all_goals exact h

theorem validateReceiptShape_sanitized {trace : Json}
    (h : validateReceiptShape e receipt trace = true) :
    validateReceiptShape e (sanitizeAgentExecutionReceipt receipt) trace = true := by
  rw [validateReceiptShape, Bool.and_eq_true] at h ⊢
  obtain ⟨hbase, hkind⟩ := h
  refine ⟨?_, validateReceiptKind_sanitized hkind⟩
  simp only [Bool.and_eq_true] at hbase ⊢
  obtain ⟨⟨⟨-, hbase⟩, hstatus⟩, htexts⟩ := hbase
  refine ⟨⟨⟨rfl, ?_⟩, ?_⟩, ?_⟩
  · simp only [validateReceiptBaseShape, all_cons, all_nil] at hbase ⊢
    simpa (disch := decide) only [sanitized_get_base] using hbase
  · rwa [sanitized_get_base (by decide)]
  · simp only [all_cons, all_nil] at htexts ⊢
    simpa (disch := decide) only [sanitized_get_base] using htexts

theorem sanitizedFields_sanitized (h : validateReceiptKind receipt = true) :
    sanitizedFields (sanitizeAgentExecutionReceipt receipt) = sanitizedFields receipt := by
  have hkind : (sanitizeAgentExecutionReceipt receipt).get "receiptKind" = receipt.get "receiptKind" :=
    sanitized_get_base (by decide)
  have hget : ∀ {key : String}, key ∉ receiptBaseKeys →
      (sanitizeAgentExecutionReceipt receipt).get key =
        ((sanitizedFields receipt).lookup key).join := sanitized_get_payload
  unfold validateReceiptKind at h
  dsimp only at h
  split at h
  case h_13 => cases h
  all_goals
    rename_i heq
    rw [sanitizedFields, hkind, heq]
    simp (disch := decide) only [hget]
    simp only [sanitizedFields, heq]
    simp [lookup_cons, redactAgentExecutionValue_idem]

theorem sanitizeReceipt_sanitized (h : validateReceiptKind receipt = true) :
    sanitizeAgentExecutionReceipt (sanitizeAgentExecutionReceipt receipt) =
      sanitizeAgentExecutionReceipt receipt := by
  have hbase : (receiptBaseKeys.map fun key =>
      (key, (sanitizeAgentExecutionReceipt receipt).get key)) =
        receiptBaseKeys.map fun key => (key, receipt.get key) :=
    map_congr_left fun key hkey => by rw [sanitized_get_base hkey]
  rw [sanitizeAgentExecutionReceipt, hbase, sanitizedFields_sanitized h,
    ← sanitizeAgentExecutionReceipt]

theorem clean_sanitized (h : validateReceiptKind receipt = true) (hkey : key ∉ receiptBaseKeys)
    (hvalue : (sanitizeAgentExecutionReceipt receipt).get key = some v) : Clean v := by
  have hredacted : ∀ value : Option Json, Clean (redactAgentExecutionValue value) := by
    intro value
    cases value with
    | none => trivial
    | some v => exact clean_redact v
  have hstage : ∀ texts value, isOneOf texts value = true → ∀ v, value = some v → Clean v := by
    rintro texts value h v rfl
    obtain ⟨text, -, htext⟩ := any_eq_true.mp h
    cases Option.some.inj (of_decide_eq_true htext)
    trivial
  have hnumber : ∀ value, isFiniteNumber value = true → ∀ v, value = some v → Clean v := by
    rintro value h v rfl
    cases v with
    | num _ => trivial
    | null | bool _ | str _ | arr _ | obj _ => cases h
  have hfields : ∀ f ∈ sanitizedFields receipt, ∀ v, f.2 = some v → Clean v := by
    unfold validateReceiptKind at h
    dsimp only at h
    split at h
    case h_13 => cases h
    all_goals
      rename_i heq
      simp only [Bool.and_eq_true] at h
      rw [sanitizedFields, heq]
      dsimp only
      simp only [forall_mem_cons, not_mem_nil, false_imp_iff, implies_true, and_true,
        Option.some.injEq, forall_eq', hredacted]
    case h_1 => exact hstage _ _ h.1.1.1.1.1.2
    case h_3 => exact hstage _ _ h.1.1.1.1.1.1.1.1.2
    case h_4 => exact hstage _ _ h.1.1.1.1.2
    case h_6 => exact hnumber _ h.2
  rw [sanitized_get_payload hkey, Option.join_eq_some_iff] at hvalue
  obtain ⟨before, after, hmem, -⟩ := lookup_eq_some_iff.mp hvalue
  exact hfields (key, some v) (by rw [hmem]; simp) v rfl

end Receipts

section Traces

variable {e : Engine} {t : Json} {receipts : List Json}

theorem compareReceipts_sanitized (left right : Json) :
    compareReceipts e (sanitizeAgentExecutionReceipt left) (sanitizeAgentExecutionReceipt right) =
      compareReceipts e left right := by
  simp (disch := decide) only [compareReceipts, sequenceOf, occurredAtOf, receiptIdOf,
    sanitized_get_base]

theorem sort_sanitized (e : Engine) (receipts : List Json) :
    sortAgentExecutionReceipts e (receipts.map sanitizeAgentExecutionReceipt) =
      (sortAgentExecutionReceipts e receipts).map sanitizeAgentExecutionReceipt :=
  (map_mergeSort fun left _ right _ => by rw [compareReceipts_sanitized]).symm

theorem findTerminalLineageViolation_sanitized (terminalSeen : Bool) (receipts : List Json) :
    findTerminalLineageViolation terminalSeen (receipts.map sanitizeAgentExecutionReceipt) =
      (findTerminalLineageViolation terminalSeen receipts).map sanitizeAgentExecutionReceipt := by
  have hterminal : ∀ receipt, isTerminalReceipt (sanitizeAgentExecutionReceipt receipt) =
      isTerminalReceipt receipt := by
    intro receipt
    rw [isTerminalReceipt, isTerminalReceipt, sanitized_get_base (by decide)]
  have hallowed : ∀ receipt, isPostTerminalAllowed (sanitizeAgentExecutionReceipt receipt) =
      isPostTerminalAllowed receipt := by
    intro receipt
    rw [isPostTerminalAllowed, isPostTerminalAllowed, sanitized_get_base (by decide)]
  induction receipts generalizing terminalSeen with
  | nil => rfl
  | cons receipt receipts ih =>
    rw [map_cons, findTerminalLineageViolation, findTerminalLineageViolation, hterminal,
      hallowed, ih]
    split <;> rfl

theorem deriveTraceStatus_sanitized (receipts : List Json) :
    deriveTraceStatus (receipts.map sanitizeAgentExecutionReceipt) = deriveTraceStatus receipts := by
  rw [deriveTraceStatus, deriveTraceStatus, getLast?_map]
  cases receipts.getLast? with
  | none => rfl
  | some receipt =>
    rw [Option.map_some]
    dsimp only
    rw [sanitized_get_base (by decide)]

theorem sanitizedInput_get (t : Json) (key : String) : (sanitizedInput t).get key =
    (([("version", t.get "version"), ("schemaVersion", t.get "schemaVersion"),
      ("traceId", t.get "traceId"), ("actorId", t.get "actorId"), ("sessionId", t.get "sessionId"),
      ("commandId", t.get "commandId"), ("intentId", ifTruthy (t.get "intentId")),
      ("principalId", ifTruthy (t.get "principalId")), ("attempt", t.get "attempt"),
      ("revision", t.get "revision"), ("checkpointId", ifTruthy (t.get "checkpointId")),
      ("correlationId", ifTruthy (t.get "correlationId")),
      ("causationId", ifTruthy (t.get "causationId")),
      ("receipts", some (.arr ((receiptsOf t).map sanitizeAgentExecutionReceipt)))] :
        List (String × Option Json)).lookup key).join := by
  rw [sanitizedInput]
  exact Json.get_object (by simp) key

theorem sanitizedInput_get_kept (t : Json) {key : String} (h : key ∈ ["version", "schemaVersion",
    "traceId", "actorId", "sessionId", "commandId", "attempt", "revision"]) :
    (sanitizedInput t).get key = t.get key := by
  rw [sanitizedInput_get]
  simp only [mem_cons, not_mem_nil, or_false] at h
  obtain rfl | rfl | rfl | rfl | rfl | rfl | rfl | rfl := h <;> rfl

theorem sanitizedInput_get_truthy (t : Json) {key : String}
    (h : key ∈ ["intentId", "principalId", "checkpointId", "correlationId", "causationId"]) :
    (sanitizedInput t).get key = ifTruthy (t.get key) := by
  rw [sanitizedInput_get]
  simp only [mem_cons, not_mem_nil, or_false] at h
  obtain rfl | rfl | rfl | rfl | rfl := h <;> rfl

theorem sanitizedInput_get_receipts (t : Json) : (sanitizedInput t).get "receipts" =
    some (.arr ((receiptsOf t).map sanitizeAgentExecutionReceipt)) := by
  rw [sanitizedInput_get]
  rfl

theorem sanitizedInput_receiptsOf (t : Json) :
    receiptsOf (sanitizedInput t) = (receiptsOf t).map sanitizeAgentExecutionReceipt := by
  rw [receiptsOf, sanitizedInput_get_receipts]

theorem sanitizedInput_shapeValid (h : ShapeValid e t) : ShapeValid e (sanitizedInput t) := by
  have hversion : versionOf (sanitizedInput t) = versionOf t := by
    rw [versionOf, versionOf, sanitizedInput_get_kept t (by decide),
      sanitizedInput_get_kept t (by decide)]
  have hidentity : traceIdentity (sanitizedInput t) = traceIdentity t := by
    simp (disch := decide) only [traceIdentity, sanitizedInput_get_kept t,
      sanitizedInput_get_truthy t, ifTruthy_idem]
  simp only [ShapeValid, shapeChecks, all_cons, all_nil, Bool.and_eq_true, Bool.and_true] at h ⊢
  obtain ⟨-, hversions, htrace, hactor, hsession, hcommand, hintent, hprincipal, hattempt, hrevision,
    hcheckpoint, -, hreceipts⟩ := h
  have hvalid : areValidReceipts e (sanitizedInput t) = true := by
    rw [areValidReceipts, all_eq_true] at hreceipts ⊢
    rw [hidentity, sanitizedInput_receiptsOf, forall_mem_map]
    exact fun receipt hreceipt => validateReceiptShape_sanitized (hreceipts receipt hreceipt)
  simp (disch := decide) only [sanitizedInput_get_kept t, sanitizedInput_get_truthy t,
    ifTruthy_of_valid hintent, ifTruthy_of_valid hprincipal, ifTruthy_of_valid hcheckpoint,
    sanitizedInput_get_receipts, hversion]
  exact ⟨rfl, hversions, htrace, hactor, hsession, hcommand, hintent, hprincipal, hattempt,
    hrevision, hcheckpoint, rfl, hvalid⟩

theorem created_sanitizedInput (h : (receiptsOf t).map sanitizeAgentExecutionReceipt = receiptsOf t) :
    createAgentExecutionTrace e (sanitizedInput t) = createAgentExecutionTrace e t := by
  simp (disch := decide) only [createAgentExecutionTrace, sanitizedInput_receiptsOf, h,
    sanitizedInput_get_kept t, sanitizedInput_get_truthy t, ifTruthy_idem]

theorem ShapeValid.validateReceiptKind (h : ShapeValid e t) {receipt : Json}
    (hreceipt : receipt ∈ receiptsOf t) : validateReceiptKind receipt = true := by
  simp only [ShapeValid, shapeChecks, all_cons, all_nil, Bool.and_eq_true, Bool.and_true] at h
  obtain ⟨-, -, -, -, -, -, -, -, -, -, -, -, hreceipts⟩ := h
  have hshape := all_eq_true.mp hreceipts receipt hreceipt
  rw [validateReceiptShape, Bool.and_eq_true] at hshape
  exact hshape.2

/-- Sanitizing an accepted trace gives an accepted one of the same receipts, with nothing under a
secret or prompt key, and only once. -/
theorem sanitize_trace (e : Engine) (horder : TransCmp e.localeCompare) (t w : Json)
    (h : parseAgentExecutionTrace e t = .ok w) :
    parseAgentExecutionTrace e w = .ok w ∧
    parseAgentExecutionTrace e (sanitizeAgentExecutionTrace e t) =
      .ok (sanitizeAgentExecutionTrace e t) ∧
    receiptsOf (sanitizeAgentExecutionTrace e t) =
      (receiptsOf w).map sanitizeAgentExecutionReceipt ∧
    (∀ receipt, ∀ key ∈ receiptBaseKeys,
      (sanitizeAgentExecutionReceipt receipt).get key = receipt.get key) ∧
    (sanitizeAgentExecutionTrace e t).get "status" = w.get "status" ∧
    (sanitizeAgentExecutionTrace e t).get "lastReceipt" =
      (receiptsOf (sanitizeAgentExecutionTrace e t)).getLast? ∧
    (∀ receipt ∈ receiptsOf (sanitizeAgentExecutionTrace e t), ∀ key ∉ receiptBaseKeys, ∀ value,
      receipt.get key = some value → Clean value) ∧
    sanitizeAgentExecutionTrace e (sanitizeAgentExecutionTrace e t) =
      sanitizeAgentExecutionTrace e t := by
  have hnormal := parse_normal horder h
  obtain ⟨hshape, hlineage, rfl⟩ := parse_eq_ok.mp h
  have hreceipts : receiptsOf (sanitizeAgentExecutionTrace e t) =
      (sortAgentExecutionReceipts e (receiptsOf t)).map sanitizeAgentExecutionReceipt := by
    rw [sanitizeAgentExecutionTrace, created_receiptsOf, sanitizedInput_receiptsOf, sort_sanitized]
  have haccepted : parseAgentExecutionTrace e (sanitizedInput t) =
      .ok (sanitizeAgentExecutionTrace e t) := by
    refine parse_eq_ok.mpr ⟨sanitizedInput_shapeValid hshape, ?_, rfl⟩
    rw [sanitizedInput_receiptsOf, sort_sanitized, findTerminalLineageViolation_sanitized, hlineage,
      Option.map_none]
  have hkind : ∀ receipt ∈ sortAgentExecutionReceipts e (receiptsOf t),
      validateReceiptKind receipt = true :=
    fun receipt hreceipt => hshape.validateReceiptKind (mem_sort.mp hreceipt)
  refine ⟨hnormal, parse_normal horder haccepted, ?_, fun receipt key hkey => sanitized_get_base hkey,
    ?_, ?_, ?_, ?_⟩
  · rw [hreceipts, created_receiptsOf]
  · have hstatus : ∀ v, (createAgentExecutionTrace e v).get "status" =
        deriveTraceStatus (sortAgentExecutionReceipts e (receiptsOf v)) := by
      intro v
      rw [created_get]
      rfl
    rw [sanitizeAgentExecutionTrace, hstatus, hstatus, sanitizedInput_receiptsOf, sort_sanitized,
      deriveTraceStatus_sanitized]
  · rw [sanitizeAgentExecutionTrace, created_receiptsOf, created_get]
    rfl
  · rw [hreceipts, forall_mem_map]
    exact fun receipt hreceipt key hkey value hvalue =>
      clean_sanitized (hkind receipt hreceipt) hkey hvalue
  · have hsame : (receiptsOf (sanitizeAgentExecutionTrace e t)).map sanitizeAgentExecutionReceipt =
        receiptsOf (sanitizeAgentExecutionTrace e t) := by
      rw [hreceipts, map_map]
      exact map_congr_left fun receipt hreceipt =>
        sanitizeReceipt_sanitized (hkind receipt hreceipt)
    rw [sanitizeAgentExecutionTrace, created_sanitizedInput hsame]
    exact created_idem horder (sanitizedInput t)

def tokenTrace : Json :=
  .obj [("version", one), ("traceId", .str "trace"), ("actorId", .str "actor"),
    ("sessionId", .str "session"), ("commandId", .str "command"),
    ("receipts", .arr [.obj [("receiptId", .str "receipt"), ("recordId", .str "record"),
      ("traceId", .str "trace"), ("actorId", .str "actor"), ("sessionId", .str "session"),
      ("commandId", .str "command"), ("receiptKind", .str "result"), ("status", .str "succeeded"),
      ("sequence", one), ("occurredAt", .str "2025-01-01T00:00:00.000Z"),
      ("result", .obj [("output", .obj [("accessToken", .str "abc")])])]])]

theorem tokenTrace_sanitized : ∃ w, parseAgentExecutionTrace plainEngine tokenTrace = .ok w ∧
    receiptsOf (sanitizeAgentExecutionTrace plainEngine tokenTrace) =
      (receiptsOf w).map sanitizeAgentExecutionReceipt := by
  have horder : TransCmp plainEngine.localeCompare :=
    inferInstanceAs (TransCmp (compare : String → String → Ordering))
  have hsorted : sortAgentExecutionReceipts plainEngine (receiptsOf tokenTrace) =
      receiptsOf tokenTrace := mergeSort_singleton _
  have hlineage : findTerminalLineageViolation false
      (sortAgentExecutionReceipts plainEngine (receiptsOf tokenTrace)) = none := by
    rw [hsorted]
    decide +kernel
  have hw := parse_eq_ok.mpr ⟨(by decide +kernel : ShapeValid plainEngine tokenTrace), hlineage, rfl⟩
  exact ⟨_, hw, (sanitize_trace plainEngine horder tokenTrace _ hw).2.2.1⟩

end Traces

end ActorWeb.AgentTraces
