import ActorWeb.CommandAdmission

/-! What the decisions of an admission say about the values under secret keys. -/

namespace ActorWeb.Admission

open Option AgentExecution AgentTraces JsText

section Fill

variable (x : Json)

mutual

def fill : Json → Json
  | .null => .null
  | .bool b => .bool b
  | .num n => .num n
  | .str s => .str s
  | .arr items => .arr (fillItems items)
  | .obj entries => .obj (fillEntries entries)

def fillItems : List Json → List Json
  | [] => []
  | item :: items => fill item :: fillItems items

def fillEntries : List (String × Json) → List (String × Json)
  | [] => []
  | (key, entry) :: entries =>
    (key, if shouldRedactKey key = some .secret then x else fill entry) :: fillEntries entries

end

variable {x}

theorem get_fill {key : String} (hkey : shouldRedactKey key ≠ some .secret) (v : Json) :
    (fill x v).get key = (v.get key).map (fill x) := by
  cases v with
  | null | bool _ | num _ | str _ | arr _ => rfl
  | obj entries =>
    rw [fill]
    induction entries with
    | nil => rfl
    | cons e entries ih =>
      obtain ⟨name, entry⟩ := e
      rw [fillEntries, Json.get_obj_cons, Json.get_obj_cons, ih]
      by_cases hname : name = key
      · subst hname
        simp only [if_neg hkey, if_pos]
        rfl
      · rw [if_neg hname, if_neg hname]

mutual

theorem fill_fill (y : Json) : (v : Json) → fill y (fill x v) = fill y v
  | .null => rfl
  | .bool _ => rfl
  | .num _ => rfl
  | .str _ => rfl
  | .arr items => by rw [fill, fill, fillItems_fillItems y items, fill]
  | .obj entries => by rw [fill, fill, fillEntries_fillEntries y entries, fill]

theorem fillItems_fillItems (y : Json) : (items : List Json) →
    fillItems y (fillItems x items) = fillItems y items
  | [] => rfl
  | item :: items => by
    rw [fillItems, fillItems, fill_fill y item, fillItems_fillItems y items, fillItems]

theorem fillEntries_fillEntries (y : Json) : (entries : List (String × Json)) →
    fillEntries y (fillEntries x entries) = fillEntries y entries
  | [] => rfl
  | (key, entry) :: entries => by
    rw [fillEntries, fillEntries, fillEntries_fillEntries y entries, fillEntries]
    by_cases hkey : shouldRedactKey key = some .secret
    · rw [if_pos hkey, if_pos hkey]
    · rw [if_neg hkey, if_neg hkey, if_neg hkey, fill_fill y entry]

end

mutual

theorem redact_fill : (v : Json) → redact (fill x v) = redact v
  | .null => rfl
  | .bool _ => rfl
  | .num _ => rfl
  | .str _ => rfl
  | .arr items => by rw [fill, redact, redactItems_fill items, redact]
  | .obj entries => by rw [fill, redact, redactEntries_fill entries, redact]

theorem redactItems_fill : (items : List Json) → redactItems (fillItems x items) = redactItems items
  | [] => rfl
  | item :: items => by
    rw [fillItems, redactItems, redact_fill item, redactItems_fill items, redactItems]

theorem redactEntries_fill : (entries : List (String × Json)) →
    redactEntries (fillEntries x entries) = redactEntries entries
  | [] => rfl
  | (key, entry) :: entries => by
    rw [fillEntries, redactEntries, redactEntries_fill entries, redactEntries]
    cases hkind : shouldRedactKey key with
    | none => simp only [reduceCtorEq, if_false, redact_fill entry]
    | some kind => rfl

end

mutual

theorem findCredentialBearingPath_fill (path : String) : (v : Json) →
    findCredentialBearingPath path (fill x v) = findCredentialBearingPath path v
  | .null => rfl
  | .bool _ => rfl
  | .num _ => rfl
  | .str _ => rfl
  | .arr items => by
    rw [fill, findCredentialBearingPath, findCredentialBearingItem_fill path 0 items,
      findCredentialBearingPath]
  | .obj entries => by
    rw [fill, findCredentialBearingPath, findCredentialBearingEntry_fill path entries,
      findCredentialBearingPath]

theorem findCredentialBearingItem_fill (path : String) (index : Nat) : (items : List Json) →
    findCredentialBearingItem path index (fillItems x items) =
      findCredentialBearingItem path index items
  | [] => rfl
  | item :: items => by
    rw [fillItems, findCredentialBearingItem, findCredentialBearingPath_fill _ item,
      findCredentialBearingItem_fill path (index + 1) items, findCredentialBearingItem]

theorem findCredentialBearingEntry_fill (path : String) : (entries : List (String × Json)) →
    findCredentialBearingEntry path (fillEntries x entries) = findCredentialBearingEntry path entries
  | [] => rfl
  | (key, entry) :: entries => by
    rw [fillEntries, findCredentialBearingEntry, findCredentialBearingEntry_fill path entries,
      findCredentialBearingEntry]
    by_cases hkey : shouldRedactKey key = some .secret
    · rw [if_pos hkey, if_pos hkey]
    · rw [if_neg hkey, if_neg hkey, if_neg hkey, findCredentialBearingPath_fill _ entry]

end

mutual

theorem fill_eq (path : String) : (v : Json) → findCredentialBearingPath path v = none → fill x v = v
  | .null, _ => rfl
  | .bool _, _ => rfl
  | .num _, _ => rfl
  | .str _, _ => rfl
  | .arr items, h => by
    rw [findCredentialBearingPath] at h
    rw [fill, fillItems_eq path 0 items h]
  | .obj entries, h => by
    rw [findCredentialBearingPath] at h
    rw [fill, fillEntries_eq path entries h]

theorem fillItems_eq (path : String) (index : Nat) : (items : List Json) →
    findCredentialBearingItem path index items = none → fillItems x items = items
  | [], _ => rfl
  | item :: items, h => by
    rw [findCredentialBearingItem] at h
    cases hitem : findCredentialBearingPath (path ++ "[" ++ toString index ++ "]") item with
    | some nestedPath =>
      rw [hitem] at h
      cases h
    | none =>
      rw [hitem] at h
      rw [fillItems, fill_eq _ item hitem, fillItems_eq path (index + 1) items h]

theorem fillEntries_eq (path : String) : (entries : List (String × Json)) →
    findCredentialBearingEntry path entries = none → fillEntries x entries = entries
  | [], _ => rfl
  | (key, entry) :: entries, h => by
    rw [findCredentialBearingEntry] at h
    by_cases hkey : shouldRedactKey key = some .secret
    · rw [if_pos hkey] at h
      cases h
    · rw [if_neg hkey] at h
      cases hentry : findCredentialBearingPath (path ++ "." ++ key) entry with
      | some nestedPath =>
        rw [hentry] at h
        cases h
      | none =>
        rw [hentry] at h
        rw [fillEntries, if_neg hkey, fill_eq _ entry hentry, fillEntries_eq path entries h]

end

mutual

theorem find_eq_none {y : Json} (hne : x ≠ y) (path : String) : (v : Json) → fill x v = fill y v →
    findCredentialBearingPath path v = none
  | .null, _ => rfl
  | .bool _, _ => rfl
  | .num _, _ => rfl
  | .str _, _ => rfl
  | .arr items, h => by
    rw [fill, fill, Json.arr.injEq] at h
    rw [findCredentialBearingPath, findItem_eq_none hne path 0 items h]
  | .obj entries, h => by
    rw [fill, fill, Json.obj.injEq] at h
    rw [findCredentialBearingPath, findEntry_eq_none hne path entries h]

theorem findItem_eq_none {y : Json} (hne : x ≠ y) (path : String) (index : Nat) :
    (items : List Json) → fillItems x items = fillItems y items →
      findCredentialBearingItem path index items = none
  | [], _ => rfl
  | item :: items, h => by
    rw [fillItems, fillItems, List.cons.injEq] at h
    rw [findCredentialBearingItem, find_eq_none hne _ item h.1]
    exact findItem_eq_none hne path (index + 1) items h.2

theorem findEntry_eq_none {y : Json} (hne : x ≠ y) (path : String) :
    (entries : List (String × Json)) → fillEntries x entries = fillEntries y entries →
      findCredentialBearingEntry path entries = none
  | [], _ => rfl
  | (key, entry) :: entries, h => by
    rw [fillEntries, fillEntries, List.cons.injEq, Prod.mk.injEq] at h
    by_cases hkey : shouldRedactKey key = some .secret
    · rw [if_pos hkey, if_pos hkey] at h
      exact absurd h.1.2 hne
    · rw [if_neg hkey, if_neg hkey] at h
      rw [findCredentialBearingEntry, if_neg hkey, find_eq_none hne _ entry h.1.2]
      exact findEntry_eq_none hne path entries h.2

end

end Fill

section Validation

variable {x : Json} {value : Option Json} {ports : Ports}

theorem isJsonObject_fill : isJsonObject (value.map (fill x)) = isJsonObject value := by
  obtain _ | (_ | _ | _ | _ | _ | _) := value <;> rfl

theorem hasNonEmptyString_fill : hasNonEmptyString (value.map (fill x)) = hasNonEmptyString value := by
  obtain _ | (_ | _ | _ | _ | _ | _) := value <;> rfl

theorem isOneOf_fill (texts : List String) :
    isOneOf texts (value.map (fill x)) = isOneOf texts value := by
  obtain _ | (_ | _ | _ | _ | _ | _) := value <;> simp [isOneOf, fill]

theorem property_fill {key : String} (hkey : shouldRedactKey key ≠ some .secret) :
    property (value.map (fill x)) key = (property value key).map (fill x) := by
  cases value with
  | none => rfl
  | some v => exact get_fill hkey v

theorem givenCommandId_fill : givenCommandId (value.map (fill x)) = givenCommandId value := by
  rw [givenCommandId, givenCommandId, property_fill (by decide)]
  obtain _ | (_ | _ | _ | _ | _ | _) := property value "commandId" <;> rfl

theorem validateAdmissionMetadataContainer_fill :
    validateAdmissionMetadataContainer (value.map (fill x)) =
      validateAdmissionMetadataContainer value := by
  rw [validateAdmissionMetadataContainer, validateAdmissionMetadataContainer, isJsonObject_fill,
    isNone_map]

theorem validateRawAdmissionMetadata_fill :
    validateRawAdmissionMetadata (value.map (fill x)) = validateRawAdmissionMetadata value := by
  have hpath : (value.map (fill x)).bind (findCredentialBearingPath "metadata") =
      value.bind (findCredentialBearingPath "metadata") := by
    cases value with
    | none => rfl
    | some v => exact findCredentialBearingPath_fill _ v
  simp (disch := decide) only [validateRawAdmissionMetadata, property_fill, isJsonObject_fill,
    hasNonEmptyString_fill, isJsonSafeValue, isSome_map, hpath]
  rfl

theorem metadata_fill (h : (validateAdmissionMetadataContainer value).or
    (validateRawAdmissionMetadata value) = none) : value.map (fill x) = value := by
  rw [or_eq_none_iff] at h
  obtain ⟨hcontainer, hraw⟩ := h
  cases value with
  | none => rfl
  | some v =>
    have hobject : isJsonObject (some v) = true := by
      by_contra hobject
      rw [validateAdmissionMetadataContainer, Bool.eq_false_iff.mpr hobject] at hcontainer
      cases hcontainer
    have hpath : findCredentialBearingPath "metadata" v = none := by
      rw [validateRawAdmissionMetadata, hobject, Bool.not_true, if_neg Bool.false_ne_true] at hraw
      repeat' split at hraw
      all_goals first | cases hraw | exact map_eq_none_iff.mp hraw
    rw [map_some, fill_eq _ v hpath]

theorem validateAdmissionInput_fill (metadata : AgentExecutionCommandMetadata)
    (principal message : Json) :
    validateAdmissionInput ports metadata (fill x principal) (fill x message) =
      validateAdmissionInput ports metadata principal message := by
  simp (disch := decide) only [validateAdmissionInput, get_fill, hasNonEmptyString_fill, isOneOf_fill,
    isSome_map, isJsonSafeValue, isSome_some, findCredentialBearingPath_fill]
  rfl

theorem validateAdmissionInput_none {metadata : AgentExecutionCommandMetadata}
    {principal message : Json} (h : validateAdmissionInput ports metadata principal message = none) :
    hasNonEmptyString (principal.get "id") = true ∧
      findCredentialBearingPath "message" message = none ∧
        findCredentialBearingPath "principal" principal = none ∧
          hasNonEmptyString (message.get "type") = true := by
  unfold validateAdmissionInput at h
  split at h
  · cases h
  rename_i htype
  split at h
  · cases h
  cases hmessage : findCredentialBearingPath "message" message with
  | some path =>
    rw [hmessage] at h
    cases h
  | none =>
    rw [hmessage] at h
    dsimp only at h
    split at h
    · cases h
    case isFalse hid =>
      cases hprincipal : findCredentialBearingPath "principal" principal with
      | some path =>
        rw [hprincipal] at h
        dsimp only at h
        repeat' split at h
        all_goals cases h
      | none => exact ⟨by simpa using hid, rfl, rfl, by simpa using htype⟩

end Validation

section Decisions

variable {x : Json} {ports : Ports} {input : AgentExecutionAdmissionInput}

def fillInput (x : Json) (input : AgentExecutionAdmissionInput) : AgentExecutionAdmissionInput :=
  { input with
    message := input.message.map (fill x)
    principal := input.principal.map (fill x)
    metadata := input.metadata.map (fill x) }

theorem fillInput_fillInput (y : Json) (input : AgentExecutionAdmissionInput) :
    fillInput y (fillInput x input) = fillInput y input := by
  simp [fillInput, Function.comp_def, fill_fill]

theorem principalOf_fill (x : Json) (input : AgentExecutionAdmissionInput) :
    principalOf (fillInput x input) = fill x (principalOf input) := by
  unfold principalOf fillInput
  obtain _ | (_ | _ | _ | _ | _ | _) := input.principal <;> rfl

theorem messageOf_fill (x : Json) (input : AgentExecutionAdmissionInput) :
    messageOf (fillInput x input) = fill x (messageOf input) := by
  unfold messageOf fillInput
  obtain _ | (_ | _ | _ | _ | _ | _) := input.message <;> rfl

def AgentExecutionAdmissionDecision.withPrincipalId (principalId : Option Json)
    (decision : AgentExecutionAdmissionDecision) : AgentExecutionAdmissionDecision :=
  { decision with
    admissionReceipt :=
      { decision.admissionReceipt with
        base := { decision.admissionReceipt.base with principalId } }
    authorizationReceipt := decision.authorizationReceipt.map fun receipt =>
      { receipt with base := { receipt.base with principalId } }
    rejectionReceipt := decision.rejectionReceipt.map fun receipt =>
      { receipt with base := { receipt.base with principalId } } }

theorem rejectedDecision_fill (metadata : AgentExecutionCommandMetadata) (stage : AdmissionStage)
    (reason : OutcomeFact) (principalId : Option Json) :
    (rejectedDecision ports (fillInput x input) metadata stage reason).withPrincipalId principalId =
      (rejectedDecision ports input metadata stage reason).withPrincipalId principalId := by
  simp only [rejectedDecision, AgentExecutionAdmissionDecision.withPrincipalId,
    createAdmissionTraceBase, principalOf_fill, redact_fill]
  rfl

theorem admit_fill (principalId : Option Json) :
    (admitAgentExecutionCommand ports (fillInput x input)).withPrincipalId principalId =
      (admitAgentExecutionCommand ports input).withPrincipalId principalId := by
  have hmetadata : (fillInput x input).metadata = input.metadata.map (fill x) := rfl
  have hactor : (fillInput x input).actorId = input.actorId := rfl
  have hsession : (fillInput x input).sessionId = input.sessionId := rfl
  have hkind : (fillInput x input).kind = input.kind := rfl
  unfold admitAgentExecutionCommand
  rw [hmetadata, validateAdmissionMetadataContainer_fill, validateRawAdmissionMetadata_fill]
  cases hraw : (validateAdmissionMetadataContainer input.metadata).or
      (validateRawAdmissionMetadata input.metadata) with
  | some reason =>
    have hfallback : createFallbackCommandMetadata ports (input.metadata.map (fill x)) =
        createFallbackCommandMetadata ports input.metadata := by
      rw [createFallbackCommandMetadata, createFallbackCommandMetadata, givenCommandId_fill]
    dsimp only
    rw [hfallback, rejectedDecision_fill]
  | none =>
    rw [metadata_fill hraw]
    dsimp only
    rw [principalOf_fill, messageOf_fill, validateAdmissionInput_fill]
    cases hvalid : validateAdmissionInput ports (toCommandMetadata ports input.metadata)
        (principalOf input) (messageOf input) with
    | some reason =>
      dsimp only
      rw [rejectedDecision_fill]
    | none =>
      obtain ⟨-, hmessage, hprincipal, -⟩ := validateAdmissionInput_none hvalid
      dsimp only
      rw [fill_eq _ _ hmessage, fill_eq _ _ hprincipal, hactor, hsession, hkind]
      cases authorize ports
        { actorId := input.actorId
          sessionId := input.sessionId
          kind := input.kind
          message := messageOf input
          principal := principalOf input
          metadata := toCommandMetadata ports input.metadata } with
      | error reason => exact rejectedDecision_fill _ _ _ _
      | ok granted =>
        simp only [authorizedDecision, createAdmissionTraceBase, principalOf_fill,
          fill_eq _ _ hprincipal]
        rfl

def contextOf (ports : Ports) (input : AgentExecutionAdmissionInput) :
    AgentExecutionAdmissionPolicyContext where
  actorId := input.actorId
  sessionId := input.sessionId
  kind := input.kind
  message := messageOf input
  principal := principalOf input
  metadata := toCommandMetadata ports input.metadata

theorem admit_cases (ports : Ports) (input : AgentExecutionAdmissionInput) :
    (∃ metadata stage reason,
      admitAgentExecutionCommand ports input = rejectedDecision ports input metadata stage reason) ∨
    (validateAdmissionMetadataContainer input.metadata).or
      (validateRawAdmissionMetadata input.metadata) = none ∧
    validateAdmissionInput ports (toCommandMetadata ports input.metadata) (principalOf input)
      (messageOf input) = none ∧
    ∃ policy claimed, authorize ports (contextOf ports input) = .ok (policy, claimed) ∧
      admitAgentExecutionCommand ports input =
        authorizedDecision ports input (toCommandMetadata ports input.metadata) policy claimed := by
  unfold admitAgentExecutionCommand
  split
  · exact .inl ⟨_, _, _, rfl⟩
  case h_2 hraw =>
    dsimp only
    split
    · exact .inl ⟨_, _, _, rfl⟩
    case h_2 hvalid =>
      split
      · exact .inl ⟨_, _, _, rfl⟩
      case h_2 policy claimed hgranted => exact .inr ⟨hraw, hvalid, policy, claimed, hgranted, rfl⟩

theorem admit_withPrincipalId (ports : Ports) (input : AgentExecutionAdmissionInput) :
    (admitAgentExecutionCommand ports input).withPrincipalId ((principalOf input).get "id") =
      admitAgentExecutionCommand ports input := by
  obtain ⟨_, _, _, heq⟩ | ⟨-, hvalid, policy, claimed, -, heq⟩ := admit_cases ports input
  · rw [heq]
    rfl
  · obtain ⟨id, hid⟩ : ∃ id, (principalOf input).get "id" = some (.str id) := by
      have hid := (validateAdmissionInput_none hvalid).1
      unfold hasNonEmptyString at hid
      split at hid
      · exact ⟨_, ‹_›⟩
      · cases hid
    rw [heq]
    dsimp only [authorizedDecision, AgentExecutionAdmissionDecision.withPrincipalId,
      createExecutionAuthorizedReceipt, createAdmissionTraceBase]
    rw [hid]
    rfl

def SameButSecrets (input input' : AgentExecutionAdmissionInput) : Prop :=
  fillInput .null input' = fillInput .null input

instance (input input' : AgentExecutionAdmissionInput) : Decidable (SameButSecrets input input') :=
  inferInstanceAs (Decidable (_ = _))

/-- Decisions do not depend on what stands under secret keys exactly if nothing does in the id of
the principal. -/
theorem admission_secrecy_iff (ports : Ports) (input : AgentExecutionAdmissionInput) :
    (∀ input', SameButSecrets input input' →
      admitAgentExecutionCommand ports input' = admitAgentExecutionCommand ports input) ↔
    ∀ id, (principalOf input).get "id" = some id →
      findCredentialBearingPath "principal.id" id = none := by
  have hid : ∀ x input, (principalOf (fillInput x input)).get "id" =
      ((principalOf input).get "id").map (fill x) := by
    intro x input
    rw [principalOf_fill, get_fill (by decide)]
  constructor
  · intro hsame id hget
    have hfill : ∀ x, fill x id = id := by
      intro x
      have hdecision := hsame (fillInput x input) (fillInput_fillInput _ _)
      have hbase := congrArg (fun d => d.admissionReceipt.base.principalId)
        (((admit_withPrincipalId ports (fillInput x input)).trans hdecision).trans
          (admit_withPrincipalId ports input).symm)
      have hids : (principalOf (fillInput x input)).get "id" = (principalOf input).get "id" := hbase
      rw [hid, hget] at hids
      exact Option.some.inj hids
    have hne : Json.null ≠ .bool true := by decide
    exact find_eq_none hne _ id ((hfill .null).trans (hfill (.bool true)).symm)
  · intro hfree input' hinput
    have hids : (principalOf input').get "id" = (principalOf input).get "id" := by
      have hfilled := (hid .null input').symm.trans
        ((congrArg (fun i => (principalOf i).get "id") hinput).trans (hid .null input))
      cases hget : (principalOf input).get "id" with
      | none =>
        rw [hget] at hfilled
        exact Option.map_eq_none_iff.mp hfilled
      | some id =>
        rw [hget, Option.map_some, fill_eq _ id (hfree id hget)] at hfilled
        obtain ⟨id', hget', hid'⟩ := Option.map_eq_some_iff.mp hfilled
        have hfree' : findCredentialBearingPath "principal.id" id' = none := by
          rw [← findCredentialBearingPath_fill, hid', hfree id hget]
        rw [hget', ← hid', fill_eq _ id' hfree']
    calc admitAgentExecutionCommand ports input'
        = (admitAgentExecutionCommand ports input').withPrincipalId
            ((principalOf input).get "id") := by rw [← hids, admit_withPrincipalId]
      _ = (admitAgentExecutionCommand ports (fillInput .null input')).withPrincipalId
            ((principalOf input).get "id") := (admit_fill _).symm
      _ = (admitAgentExecutionCommand ports (fillInput .null input)).withPrincipalId
            ((principalOf input).get "id") := by rw [hinput]
      _ = (admitAgentExecutionCommand ports input).withPrincipalId
            ((principalOf input).get "id") := admit_fill _
      _ = admitAgentExecutionCommand ports input := admit_withPrincipalId ports input

def plainPorts : Ports where
  policy := none
  requireExplicitPolicy := false
  idempotency := none
  nowTime := 0
  nowText := "1970-01-01T00:00:00.000Z"
  dateParse := dateParse
  fallbackCommandIdSequence := 0

def tokenIdInput (token : String) : AgentExecutionAdmissionInput where
  actorId := "actor"
  sessionId := "session"
  kind := .send
  message := some (.obj [("type", .str "deploy")])
  principal := some (.obj [("id", .obj [("token", .str token)]), ("kind", .str "local")])
  metadata := some (.obj [("commandId", .str "command")])

theorem tokenId_told : SameButSecrets (tokenIdInput "alpha") (tokenIdInput "beta") ∧
    (admitAgentExecutionCommand plainPorts (tokenIdInput "alpha")).rejectionReceipt.bind
        (fun receipt => receipt.base.principalId) = some (.obj [("token", .str "alpha")]) ∧
    admitAgentExecutionCommand plainPorts (tokenIdInput "beta") ≠
      admitAgentExecutionCommand plainPorts (tokenIdInput "alpha") := by
  decide +kernel

end Decisions

section FailClosed

variable {ports : Ports} {input : AgentExecutionAdmissionInput}
  {context : AgentExecutionAdmissionPolicyContext} {policy : String} {claimed : Bool}

theorem claimIdempotency_ok (h : claimIdempotency ports context = .ok claimed) :
    claimed = ports.idempotency.isSome ∧
      (context.metadata.idempotencyKey.isSome = true → claimed = true) := by
  unfold claimIdempotency at h
  repeat' split at h
  all_goals cases h
  all_goals simp_all

theorem authorize_ok (h : authorize ports context = .ok (policy, claimed)) :
    (ports.requireExplicitPolicy = true → ports.policy.isSome = true) ∧
    (∀ ask, ports.policy = some ask →
      ∃ d, ask context = .object d ∧ isText "authorized" d.outcome = true) ∧
    claimIdempotency ports context = .ok claimed := by
  unfold authorize at h
  split at h
  · cases h
  case isFalse hrequired =>
    split at h
    · cases h
    · cases h
    case h_3 decision hask =>
      split at h
      · cases h
      · split at h <;> cases h
      case h_3 given hvalid =>
        refine ⟨fun hr => ?_, fun ask hports => ⟨decision, ?_, ?_⟩, ?_⟩
        · cases hports : ports.policy <;> simp_all
        · rwa [askPolicy, hports] at hask
        · unfold validPolicyDecision at hvalid
          split at hvalid
          case isTrue h => exact h
          case isFalse =>
            split at hvalid
            · simp [bind_eq_some_iff] at hvalid
            · cases hvalid
        · cases hclaim : claimIdempotency ports context with
          | error reason =>
            rw [hclaim] at h
            cases h
          | ok taken =>
            rw [hclaim] at h
            cases h
            rfl

theorem fillInput_eq {x : Json} (hmetadata : input.metadata.map (fill x) = input.metadata)
    (h : validateAdmissionInput ports (toCommandMetadata ports input.metadata) (principalOf input)
      (messageOf input) = none) : fillInput x input = input := by
  obtain ⟨hid, hmessage, hprincipal, htype⟩ := validateAdmissionInput_none h
  have hm : input.message.map (fill x) = input.message := by
    unfold messageOf at hmessage htype
    split at htype
    case h_1 entries heq => rw [heq, map_some, fill_eq _ _ (by rwa [heq] at hmessage)]
    case h_2 => exact absurd htype (by decide)
  have hp : input.principal.map (fill x) = input.principal := by
    unfold principalOf at hprincipal hid
    split at hid
    case h_1 entries heq => rw [heq, map_some, fill_eq _ _ (by rwa [heq] at hprincipal)]
    case h_2 => exact absurd hid (by decide)
  rw [fillInput, hm, hp, hmetadata]

/-- A rejected command holds no claim. An admitted one has nothing under secret keys, the policy
authorized it as it stands, and it holds a claim exactly if there is a port, as its key demands. -/
theorem admission_fails_closed (ports : Ports) (input : AgentExecutionAdmissionInput) :
    ((admitAgentExecutionCommand ports input).ok = false →
      (admitAgentExecutionCommand ports input).claimed = false) ∧
    ((admitAgentExecutionCommand ports input).ok = true →
      (∀ x, fillInput x input = input) ∧
      (ports.requireExplicitPolicy = true → ports.policy.isSome = true) ∧
      (∀ ask, ports.policy = some ask →
        ∃ d, ask (contextOf ports input) = .object d ∧ isText "authorized" d.outcome = true) ∧
      (admitAgentExecutionCommand ports input).claimed = ports.idempotency.isSome ∧
      ((property input.metadata "idempotencyKey").isSome = true →
        (admitAgentExecutionCommand ports input).claimed = true)) := by
  obtain ⟨_, _, _, heq⟩ | ⟨hraw, hvalid, policy, claimed, hgranted, heq⟩ := admit_cases ports input
  · rw [heq]
    exact ⟨fun _ => rfl, fun h => Bool.noConfusion h⟩
  · obtain ⟨hrequired, hpolicy, hclaim⟩ := authorize_ok hgranted
    obtain ⟨hclaimed, hkey⟩ := claimIdempotency_ok hclaim
    rw [heq]
    exact ⟨fun h => Bool.noConfusion h, fun _ =>
      ⟨fun x => fillInput_eq (metadata_fill hraw) hvalid, hrequired, hpolicy, hclaimed, hkey⟩⟩

end FailClosed

end ActorWeb.Admission
