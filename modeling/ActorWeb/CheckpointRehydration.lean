import ActorWeb.CheckpointStores

namespace ActorWeb.SessionCheckpoint

inductive RecoveryReason
  | missing | stale | corrupt | versionMismatch | expired | redacted | continuationIncompatible
deriving DecidableEq

def RecoveryReason.text : RecoveryReason → String
  | .missing => "missing"
  | .stale => "stale"
  | .corrupt => "corrupt"
  | .versionMismatch => "version_mismatch"
  | .expired => "expired"
  | .redacted => "redacted"
  | .continuationIncompatible => "continuation_incompatible"

inductive Rehydration
  | resumed (envelope : Envelope)
  | deferredForReconciliation (envelope : Envelope) (reason : String)
  | manualRecoveryRequired (reason : RecoveryReason) (detail : Option String)
deriving DecidableEq

structure ContinuationFormat where
  (provider adapter : String)
  formatVersion : Nat
deriving DecidableEq

def Continuation.format (c : Continuation) : ContinuationFormat :=
  ⟨c.provider, c.adapter, c.formatVersion⟩

def EffectState.unsettled (e : EffectState) : Bool :=
  e.irreversible && e.phase = .intentRecorded && e.receipt.isNone

def Envelope.awaitsReconciliation (e : Envelope) : Bool :=
  e.reconciliation.status = .pending || e.reconciliation.status = .required ||
    e.effect.any fun effect => effect.phase = .reconciliationRequired

def rehydratePresent (supported : List ContinuationFormat) (e : Envelope) : Rehydration :=
  if e.continuation.any fun c => c.redaction.disposition = .metadataOnly then
    .manualRecoveryRequired .redacted
      (e.continuation.map fun c => ",".intercalate c.redaction.fields)
  else if e.continuation.any fun c => !supported.contains c.format then
    .manualRecoveryRequired .continuationIncompatible
      (e.continuation.map fun c => "Unsupported continuation format: " ++ c.provider ++ "/" ++
        c.adapter ++ "@" ++ toString c.formatVersion)
  else if e.effect.any EffectState.unsettled then
    .deferredForReconciliation e
      "Irreversible effect intent was recorded without a settled receipt."
  else if e.awaitsReconciliation then
    .deferredForReconciliation e
      (e.reconciliation.reason.getD "Checkpoint requires reconciliation before resume.")
  else .resumed e

def deriveRehydration (supported : List ContinuationFormat) : ReadResult → Rehydration
  | .missing _ => .manualRecoveryRequired .missing none
  | .corrupt _ detail => .manualRecoveryRequired .corrupt (some detail)
  | .versionMismatch _ foundVersion =>
    .manualRecoveryRequired .versionMismatch (some ("Unsupported schema version: " ++
      (foundVersion.map fun n => String.ofList n.digits).getD "null"))
  | .found .expired _ _ => .manualRecoveryRequired .expired none
  | .found .stale _ _ => .manualRecoveryRequired .stale none
  | .found .redacted _ fields =>
    .manualRecoveryRequired .redacted (fields.map fun names => ",".intercalate names)
  | .found .present e _ => rehydratePresent supported e

def Deferring (e : Envelope) : Prop :=
  e.effect.any EffectState.unsettled = true ∨ e.awaitsReconciliation = true

variable {supported : List ContinuationFormat} {result : ReadResult} {e : Envelope}

theorem deriveRehydration_resumed (h : deriveRehydration supported result = .resumed e) :
    (∃ fields, result = .found .present e fields) ∧ ¬ Deferring e := by
  unfold deriveRehydration at h
  split at h
  any_goals cases h
  case h_7 found fields =>
    unfold rehydratePresent at h
    split at h
    case isTrue => cases h
    split at h
    case isTrue => cases h
    split at h
    case isTrue => cases h
    case isFalse heffect =>
      split at h
      case isTrue => cases h
      case isFalse hawaits =>
        obtain rfl := Rehydration.resumed.inj h
        exact ⟨⟨fields, rfl⟩, not_or.mpr ⟨heffect, hawaits⟩⟩

theorem deriveRehydration_deferred {reason : String}
    (h : deriveRehydration supported result = .deferredForReconciliation e reason) :
    (∃ fields, result = .found .present e fields) ∧ Deferring e := by
  unfold deriveRehydration at h
  split at h
  any_goals cases h
  case h_7 found fields =>
    unfold rehydratePresent at h
    split at h
    case isTrue => cases h
    split at h
    case isTrue => cases h
    split at h
    case isTrue heffect =>
      obtain ⟨rfl, -⟩ := Rehydration.deferredForReconciliation.inj h
      exact ⟨⟨fields, rfl⟩, .inl heffect⟩
    case isFalse heffect =>
      split at h
      case isTrue hawaits =>
        obtain ⟨rfl, -⟩ := Rehydration.deferredForReconciliation.inj h
        exact ⟨⟨fields, rfl⟩, .inr hawaits⟩
      case isFalse => cases h

theorem deriveRehydration_missing {detail : Option String}
    (h : deriveRehydration supported result = .manualRecoveryRequired .missing detail) :
    ∃ sessionId, result = .missing sessionId := by
  unfold deriveRehydration at h
  split at h
  any_goals cases h
  case h_1 sessionId => exact ⟨sessionId, rfl⟩
  case h_7 found fields =>
    unfold rehydratePresent at h
    split at h
    case isTrue => cases h
    split at h
    case isTrue => cases h
    split at h
    case isTrue => cases h
    split at h
    case isTrue => cases h
    case isFalse => cases h

end ActorWeb.SessionCheckpoint
