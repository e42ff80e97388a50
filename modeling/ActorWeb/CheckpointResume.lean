import ActorWeb.CheckpointRehydration

/-! From which envelopes a session is resumed. -/

namespace ActorWeb.SessionCheckpoint

open JsText

variable {supported : List ContinuationFormat} {e : Envelope}

section Resume

def Later (now : Int) (value : Option String) : Prop :=
  ∀ text, value = some text → ∃ ms, dateParse text = some ms ∧ now < ms

/-- What has to hold of an envelope for its session to go on from it. -/
structure Resumable (supported : List ContinuationFormat) (now : Int) (e : Envelope) : Prop where
  unexpired : Later now e.expiresAt
  continuationUnexpired : Later now e.continuationExpiresAt
  fresh : Later now e.staleAt
  unredacted : e.redactedFields = [] ∧
    ∀ c, e.continuation = some c → c.redaction.disposition = .none
  supported : ∀ c, e.continuation = some c → c.format ∈ supported
  clear : e.reconciliation.status = .clear
  settled : ∀ effect, e.effect = some effect → effect.irreversible = true →
    effect.phase ≠ .none → effect.receipt ≠ none

/-- The phase of an irreversible effect says that its receipt was recorded, and there is none. -/
def Envelope.Unreceipted (e : Envelope) : Prop :=
  ∃ effect, e.effect = some effect ∧ effect.irreversible = true ∧
    effect.phase = .receiptRecorded ∧ effect.receipt = none

def Envelope.Withheld (e : Envelope) (supported : List ContinuationFormat) (now : Int) : Prop :=
  due e.expiresAt now = true ∨ due e.continuationExpiresAt now = true ∨
    due e.staleAt now = true ∨ e.redactedFields ≠ [] ∨
    (∃ c, e.continuation = some c ∧
      (c.redaction.disposition = .metadataOnly ∨ c.format ∉ supported)) ∨
    e.reconciliation.status ≠ .clear

variable {now : Int}

theorem isIsoDateString_parses {text : String} (h : isIsoDateString text = true) :
    ∃ ms, dateParse text = some ms := by
  obtain ⟨ms, hms, -⟩ := (Option.any_eq_true _ _).mp h
  exact ⟨ms, hms⟩

theorem later_of_not_due {value : Option String} (hvalid : value.all isIsoDateString = true)
    (hdue : ¬ due value now = true) : Later now value := by
  rintro text rfl
  obtain ⟨ms, hms⟩ := isIsoDateString_parses hvalid
  refine ⟨ms, hms, Int.not_le.mp fun hle => hdue ?_⟩
  simp only [due, toDateMs, Option.bind_some, hms, Option.any_some, decide_eq_true_eq]
  exact hle

theorem dates_of_valid (h : e.valid = true) : e.expiresAt.all isIsoDateString = true ∧
    e.continuationExpiresAt.all isIsoDateString = true ∧ e.staleAt.all isIsoDateString = true := by
  simp only [Envelope.valid, Envelope.checks, List.all_cons, List.all_nil, Bool.and_eq_true,
    Bool.and_true] at h
  obtain ⟨-, -, -, -, -, hcontinuation, -, -, -, hexpires, hstale⟩ := h
  refine ⟨hexpires, ?_, hstale⟩
  cases hc : e.continuation with
  | none => simp [Envelope.continuationExpiresAt, hc]
  | some c =>
    rw [hc, Option.all_some, isValidContinuation] at hcontinuation
    simp only [Bool.and_eq_true] at hcontinuation
    rw [Envelope.continuationExpiresAt, hc, Option.bind_some]
    exact hcontinuation.1.1.2

theorem classifyReadResult_present (e : Envelope) (now : Int) :
    classifyReadResult e now = .found .present e none ↔
      ¬ due e.expiresAt now = true ∧ ¬ due e.continuationExpiresAt now = true ∧
        ¬ due e.staleAt now = true ∧ e.redactedFields = [] ∧
        ¬ (e.continuation.any fun c => c.redaction.disposition = .metadataOnly) = true := by
  unfold classifyReadResult
  split
  case isTrue hexpired => exact iff_of_false (by simp) fun h => h.1 hexpired
  split
  case isTrue hexpired => exact iff_of_false (by simp) fun h => h.2.1 hexpired
  split
  case isTrue hstale => exact iff_of_false (by simp) fun h => h.2.2.1 hstale
  split
  case isTrue hredacted =>
    refine iff_of_false (by simp) fun h => ?_
    exact hredacted.elim (fun hne => hne h.2.2.2.1) h.2.2.2.2
  case isFalse hexpires hcontinuation hstale hredacted =>
    obtain ⟨hfields, hkept⟩ := not_or.mp hredacted
    exact iff_of_true rfl ⟨hexpires, hcontinuation, hstale, not_not.mp hfields, hkept⟩

theorem rehydratePresent_resumed (supported : List ContinuationFormat) (e : Envelope) :
    rehydratePresent supported e = .resumed e ↔
      ¬ (e.continuation.any fun c => c.redaction.disposition = .metadataOnly) = true ∧
        ¬ (e.continuation.any fun c => !supported.contains c.format) = true ∧ ¬ Deferring e := by
  unfold rehydratePresent
  split
  case isTrue hredacted => exact iff_of_false (by simp) fun h => h.1 hredacted
  split
  case isTrue hformat => exact iff_of_false (by simp) fun h => h.2.1 hformat
  split
  case isTrue heffect => exact iff_of_false (by simp) fun h => h.2.2 (.inl heffect)
  split
  case isTrue hawaits => exact iff_of_false (by simp) fun h => h.2.2 (.inr hawaits)
  case isFalse hredacted hformat heffect hawaits =>
    exact iff_of_true rfl ⟨hredacted, hformat, not_or.mpr ⟨heffect, hawaits⟩⟩

theorem resumed_iff (supported : List ContinuationFormat) (now : Int) (e : Envelope) :
    deriveRehydration supported (classifyReadResult e now) = .resumed e ↔
      ¬ e.Withheld supported now ∧ ∀ effect, e.effect = some effect →
        ¬ effect.unsettled = true ∧ effect.phase ≠ .reconciliationRequired := by
  have hclassified : deriveRehydration supported (classifyReadResult e now) = .resumed e ↔
      classifyReadResult e now = .found .present e none ∧ rehydratePresent supported e = .resumed e := by
    constructor
    · intro h
      obtain ⟨⟨fields, hfound⟩, -⟩ := deriveRehydration_resumed h
      have hpresent := hfound
      unfold classifyReadResult at hpresent
      split at hpresent
      case isTrue => cases hpresent
      split at hpresent
      case isTrue => cases hpresent
      split at hpresent
      case isTrue => cases hpresent
      split at hpresent
      case isTrue => cases hpresent
      case isFalse =>
        cases hpresent
        rw [hfound] at h
        exact ⟨hfound, h⟩
    · rintro ⟨hfound, h⟩
      rw [hfound]
      exact h
  rw [hclassified, classifyReadResult_present, rehydratePresent_resumed, Deferring,
    Envelope.awaitsReconciliation, Envelope.Withheld]
  cases hc : e.continuation <;> cases heffect : e.effect <;> cases hstatus : e.reconciliation.status <;>
    simp [and_assoc]

theorem valid_of_parse {input : Json} (h : parseEnvelope input = .ok e) : e.valid = true := by
  unfold parseEnvelope at h
  split at h
  case h_3 => cases h
  all_goals
    split at h
    case isTrue => cases h
    split at h
    case h_2 => cases h
    split at h
    case isFalse => cases h
    case isTrue hvalid => exact ParseResult.ok.inj h ▸ hvalid

theorem resumable_of_not_withheld (hvalid : e.valid = true) (hheld : ¬ e.Withheld supported now)
    (hsettled : ∀ effect, e.effect = some effect → effect.irreversible = true →
      effect.phase ≠ .none → effect.receipt ≠ none) : Resumable supported now e := by
  obtain ⟨hexpires, hcontinuation, hstale⟩ := dates_of_valid hvalid
  simp only [Envelope.Withheld, not_or, not_exists, not_and, not_not] at hheld
  obtain ⟨hunexpired, hkept, hfresh, hfields, hformat, hclear⟩ := hheld
  exact
    { unexpired := later_of_not_due hexpires hunexpired
      continuationUnexpired := later_of_not_due hcontinuation hkept
      fresh := later_of_not_due hstale hfresh
      unredacted := ⟨hfields, fun c hc => by
        cases hdisposition : c.redaction.disposition with
        | none => rfl
        | metadataOnly => exact absurd hdisposition (hformat c hc).1⟩
      supported := fun c hc => (hformat c hc).2
      clear := hclear
      settled := hsettled }

/-- A session is resumed only where it may go on, unless the receipt that the phase of an
irreversible effect tells of is missing from an envelope that nothing else holds back. -/
theorem resume_safe_iff (input : Json) (e : Envelope) (h : parseEnvelope input = .ok e)
    (supported : List ContinuationFormat) (now : Int) :
    (∀ resumed, deriveRehydration supported (classifyReadResult e now) = .resumed resumed →
        resumed = e ∧ Resumable supported now e) ↔
      (e.Unreceipted → e.Withheld supported now) := by
  constructor
  · rintro hsafe ⟨effect, heffect, hirreversible, hphase, hreceipt⟩
    by_contra hheld
    have hresumed : deriveRehydration supported (classifyReadResult e now) = .resumed e := by
      refine (resumed_iff supported now e).mpr ⟨hheld, fun effect' heffect' => ?_⟩
      obtain rfl := Option.some.inj (heffect.symm.trans heffect')
      simp [EffectState.unsettled, hphase]
    have hresumable := (hsafe e hresumed).2
    refine hresumable.settled effect heffect hirreversible ?_ hreceipt
    rw [hphase]
    decide
  · intro hreceipted resumed hresumed
    obtain ⟨⟨fields, hfound⟩, -⟩ := deriveRehydration_resumed hresumed
    have henvelope := classifyReadResult_envelope e now
    rw [hfound] at henvelope
    obtain rfl : resumed = e := Option.some.inj henvelope
    obtain ⟨hheld, heffects⟩ := (resumed_iff supported now resumed).mp hresumed
    refine ⟨rfl, resumable_of_not_withheld (valid_of_parse h) hheld ?_⟩
    intro effect heffect hirreversible hphase hreceipt
    obtain ⟨hsettled, hreconciled⟩ := heffects effect heffect
    cases hp : effect.phase with
    | none => exact hphase hp
    | intentRecorded => exact hsettled (by simp [EffectState.unsettled, hirreversible, hp, hreceipt])
    | receiptRecorded => exact hheld (hreceipted ⟨effect, heffect, hirreversible, hp, hreceipt⟩)
    | reconciliationRequired => exact hreconciled hp

def turnEnvelope (phase : EffectPhase) (receipt : Option Json) : Envelope :=
  { sessionId := "session"
    checkpointId := "checkpoint"
    actor :=
      { actorId := "actor", sessionId := "session", turnId := "turn", traceId := "trace",
        commandId := "command", correlationId := "correlation", causationId := "causation" }
    deterministic := .obj []
    effect := some
      { effectId := "effect", effectAttemptId := "attempt", phase, irreversible := true,
        intent := some (.obj []), receipt }
    continuation := none
    reconciliation := { status := .clear, reason := none }
    recordedAt := "2025-01-01T00:00:00.000Z"
    expiresAt := none
    staleAt := none
    redactedFields := []
    metadata := none }

theorem resume_safe_receipted :
    deriveRehydration [] (classifyReadResult (turnEnvelope .receiptRecorded (some (.obj []))) 0) =
        .resumed (turnEnvelope .receiptRecorded (some (.obj []))) ∧
      Resumable [] 0 (turnEnvelope .receiptRecorded (some (.obj []))) := by
  have hresumed : deriveRehydration []
      (classifyReadResult (turnEnvelope .receiptRecorded (some (.obj []))) 0) =
        .resumed (turnEnvelope .receiptRecorded (some (.obj []))) := by
    decide
  refine ⟨hresumed, ((resume_safe_iff (turnEnvelope .receiptRecorded (some (.obj []))).toJson _
    (parseEnvelope_toJson (by decide +kernel)) [] 0).mpr ?_ _ hresumed).2⟩
  rintro ⟨effect, heffect, -, -, hreceipt⟩
  cases heffect
  cases hreceipt

/-- A session goes on although its irreversible effect was started and has no receipt. -/
theorem unreceipted_resumed :
    parseEnvelope (turnEnvelope .receiptRecorded none).toJson =
        .ok (turnEnvelope .receiptRecorded none) ∧
      deriveRehydration [] (classifyReadResult (turnEnvelope .receiptRecorded none) 0) =
        .resumed (turnEnvelope .receiptRecorded none) ∧
      ¬ Resumable [] 0 (turnEnvelope .receiptRecorded none) := by
  refine ⟨parseEnvelope_toJson (by decide +kernel), by decide, fun h => ?_⟩
  exact h.settled _ rfl rfl (by decide) rfl

end Resume

end ActorWeb.SessionCheckpoint
