import ActorWeb.OrderedMap

namespace ActorWeb

structure EffectRecord (Result : Type) where
  recordedAt : String
  result : Result

structure EffectJournalEntry (Kind Result : Type) where
  kind : Kind
  record : Option (EffectRecord Result)

/-- The in-memory effect journal. Records are held as their JSON clones, so reading one
out again does not change it. -/
structure EffectJournal (Key Kind Result : Type) where
  entries : OrderedMap Key (EffectJournalEntry Kind Result)

namespace EffectJournal

variable {Key Kind Result : Type}

def createInMemory : EffectJournal Key Kind Result := ⟨OrderedMap.empty⟩

/-- An `error` names the kind of the entry and the kind of the claim. -/
inductive ClaimResult (Kind Result : Type)
  | claimed
  | duplicate (record : Option (EffectRecord Result))
  | error (expected actual : Kind)

inductive RecordResult (Kind Result : Type)
  | recorded (record : EffectRecord Result)
  | missingClaim
  | alreadyRecorded (record : EffectRecord Result)
  | error (expected actual : Kind)

variable [DecidableEq Key] [DecidableEq Kind]

def claim (j : EffectJournal Key Kind Result) (key : Key) (kind : Kind) :
    EffectJournal Key Kind Result × ClaimResult Kind Result :=
  match j.entries.get key with
  | none => (⟨j.entries.set key ⟨kind, none⟩⟩, .claimed)
  | some current =>
    if current.kind ≠ kind then (j, .error current.kind kind) else (j, .duplicate current.record)

def record (j : EffectJournal Key Kind Result) (key : Key) (kind : Kind)
    (r : EffectRecord Result) : EffectJournal Key Kind Result × RecordResult Kind Result :=
  match j.entries.get key with
  | none => (j, .missingClaim)
  | some current =>
    if current.kind ≠ kind then (j, .error current.kind kind)
    else
      match current.record with
      | some kept => (j, .alreadyRecorded kept)
      | none => (⟨j.entries.set key ⟨kind, some r⟩⟩, .recorded r)

def recordOf (j : EffectJournal Key Kind Result) (key : Key) : Option (EffectRecord Result) :=
  (j.entries.get key).bind EffectJournalEntry.record

variable {j : EffectJournal Key Kind Result} {key : Key} {kind : Kind}

theorem claim_of_mismatch {e : EffectJournalEntry Kind Result} (hget : j.entries.get key = some e)
    (hkind : e.kind ≠ kind) : j.claim key kind = (j, .error e.kind kind) := by
  simp only [claim, hget, if_pos hkind]

variable {r : EffectRecord Result}

theorem record_of_mismatch {e : EffectJournalEntry Kind Result}
    (hget : j.entries.get key = some e) (hkind : e.kind ≠ kind) :
    j.record key kind r = (j, .error e.kind kind) := by
  simp only [record, hget, if_pos hkind]

theorem claim_cases (j : EffectJournal Key Kind Result) (key : Key) (kind : Kind) :
    (j.entries.get key = none ∧ (j.claim key kind).2 = .claimed ∧
      (j.claim key kind).1 = ⟨j.entries.set key ⟨kind, none⟩⟩) ∨
    (j.entries.get key ≠ none ∧ (j.claim key kind).1 = j ∧
      ((j.claim key kind).2 = .duplicate (j.recordOf key) ∨
        ∃ expected, (j.claim key kind).2 = .error expected kind)) := by
  cases hget : j.entries.get key with
  | none => exact .inl ⟨rfl, by simp only [claim, hget], by simp only [claim, hget]⟩
  | some e =>
    refine .inr ⟨by simp, ?_⟩
    by_cases hkind : e.kind = kind
    · simp only [claim, recordOf, hget, hkind, ne_eq, not_true_eq_false, if_false,
        Option.bind_some, true_or, true_and]
    · rw [claim_of_mismatch hget hkind]
      exact ⟨rfl, .inr ⟨_, rfl⟩⟩

theorem record_cases (j : EffectJournal Key Kind Result) (key : Key) (kind : Kind)
    (r : EffectRecord Result) :
    (j.entries.get key = some ⟨kind, none⟩ ∧ (j.record key kind r).2 = .recorded r ∧
      (j.record key kind r).1 = ⟨j.entries.set key ⟨kind, some r⟩⟩) ∨ ((j.record key kind r).1 = j ∧
      ((j.record key kind r).2 = .missingClaim ∨
        (∃ kept, j.recordOf key = some kept ∧ (j.record key kind r).2 = .alreadyRecorded kept) ∨
        ∃ expected, (j.record key kind r).2 = .error expected kind)) := by
  cases hget : j.entries.get key with
  | none => exact .inr ⟨by simp only [record, hget], .inl (by simp only [record, hget])⟩
  | some e =>
    by_cases hkind : e.kind = kind
    · cases hrecord : e.record with
      | none =>
        refine .inl ⟨?_, by simp [record, hget, hkind, hrecord],
          by simp [record, hget, hkind, hrecord]⟩
        cases e
        simp_all
      | some kept =>
        refine .inr ⟨by simp [record, hget, hkind, hrecord], .inr (.inl ⟨kept, ?_, ?_⟩)⟩
        · simp [recordOf, hget, hrecord]
        · simp [record, hget, hkind, hrecord]
    · rw [record_of_mismatch hget hkind]
      exact .inr ⟨rfl, .inr (.inr ⟨_, rfl⟩)⟩

theorem record_entry_ne {other : Key} (h : other ≠ key) :
    (j.record key kind r).1.entries.get other = j.entries.get other := by
  obtain ⟨-, -, hset⟩ | ⟨hsame, -⟩ := record_cases j key kind r
  · rw [hset, OrderedMap.get_set_ne _ _ h]
  · rw [hsame]

theorem record_entry_some (h : j.entries.get key ≠ none) (other : Key) (kind : Kind)
    (r : EffectRecord Result) : (j.record other kind r).1.entries.get key ≠ none := by
  by_cases hkey : key = other
  · subst hkey
    obtain ⟨-, -, hset⟩ | ⟨hsame, -⟩ := record_cases j key kind r
    · simp [hset]
    · rwa [hsame]
  · rwa [record_entry_ne hkey]

theorem record_recordOf (h : j.recordOf key = some r) (other : Key)
    (kind : Kind) (next : EffectRecord Result) :
    (j.record other kind next).1.recordOf key = some r := by
  by_cases hkey : key = other
  · subst hkey
    obtain ⟨hpending, -⟩ | ⟨hsame, -⟩ := record_cases j key kind next
    · simp [recordOf, hpending] at h
    · rwa [hsame]
  · rw [recordOf, record_entry_ne hkey]
    exact h

end EffectJournal

end ActorWeb
