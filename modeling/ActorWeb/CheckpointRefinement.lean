import ActorWeb.CheckpointLinearization
import Mathlib.Data.Fintype.Basic

namespace ActorWeb.SessionCheckpoint

open Option List Function Transition

variable {Ticket : Type}

section Steps

variable [DecidableEq Ticket]

variable {directory : String} {clock : Int} {limit : Nat} {s t : FileStores Ticket}
variable {order : List (Ticket × Operation)} {ticket : Ticket} {operation : Operation}

theorem Invariant.readOpened (h : Invariant directory clock limit s order) {options : StoreOptions}
    {sessionId : String} {now : Option Int}
    (hfound : s.calls ticket = some ⟨operation, .reading options sessionId now⟩) :
    Invariant directory clock limit
      (s.setCall ticket ⟨operation, .readOpened options sessionId now
        (s.disk.links (toSessionFilePath directory sessionId))⟩)
      (order ++ [(ticket, operation)]) := by
  obtain ⟨hoperation, hlimit, hunplaced⟩ := h.stages hfound
  have hcall : (memoryOf clock order).call clock operation =
      (memoryOf clock order, .read ((memoryOf clock order).read clock sessionId now)) := by
    rw [show operation = .read sessionId now from hoperation, Memory.call]
  refine h.quiet hfound rfl rfl rfl (.last hunplaced) ?_ ⟨?_, ?_⟩
  · rw [memoryOf_concat, hcall]
  · exact fun n hn => h.sound.settled hn
  · have hlast := outcome_last clock order ticket operation
    rw [hcall, ← readCheckpoint_memory (fun _ => h.fits) hlimit now, ← h.files sessionId] at hlast
    exact hlast

theorem Invariant.previousRead (h : Invariant directory clock limit s order)
    {options : StoreOptions} {next : Envelope} {raw : Option String}
    (hfound : s.calls ticket = some ⟨operation, .previousRead options next raw⟩)
    (hstep : s.advance directory clock ticket operation (.previousRead options next raw) = some t) :
    ∃ order', Invariant directory clock limit t order' := by
  obtain ⟨hlimit, hwriting, hholds, rfl⟩ := h.stages hfound
  simp only [FileStores.advance] at hstep
  rw [FileStores.previousEnvelope_memory (fun _ => h.fits) hlimit] at hstep
  split at hstep
  case h_1 previous hprevious =>
    cases hstep
    exact ⟨_, h.refused hfound rfl hwriting hholds (Memory.write_duplicate hprevious)⟩
  case h_2 hfresh =>
    split at hstep
    case isTrue hexpired =>
      cases hstep
      refine ⟨_, h.refused hfound rfl hwriting hholds ?_⟩
      rw [Memory.write_fresh hfresh, if_pos hexpired]
    case isFalse hexpired =>
      cases hstep
      exact ⟨order, h.quiet hfound rfl rfl rfl .none rfl
        ⟨⟨hwriting.operation, hwriting.fits, hwriting.unplaced, hwriting.waits⟩, hholds, rfl, hfresh,
          Bool.not_eq_true _ ▸ hexpired⟩⟩

theorem Invariant.advance (h : Invariant directory clock limit s order) {stage : Stage}
    (hfound : s.calls ticket = some ⟨operation, stage⟩)
    (hexclusive : Exclusive directory s (.advance ticket))
    (hstep : s.advance directory clock ticket operation stage = some t) :
    ∃ order', Invariant directory clock limit t order' := by
  cases stage with
  | reading options sessionId now =>
    cases hstep
    exact ⟨_, h.readOpened hfound⟩
  | readOpened options sessionId now file =>
    cases hstep
    obtain ⟨-, hout⟩ := h.stages hfound
    exact ⟨order, h.quiet hfound rfl rfl rfl .none rfl hout⟩
  | queued options next =>
    obtain ⟨hlimit, hwriting⟩ := h.stages hfound
    simp only [FileStores.advance] at hstep
    split at hstep
    case isTrue hhead =>
      cases hstep
      exact ⟨order, h.quiet hfound rfl rfl rfl .none rfl
        ⟨hlimit, ⟨hwriting.operation, hwriting.fits, hwriting.unplaced, hwriting.waits⟩, hhead⟩⟩
    case isFalse => cases hstep
  | locked options next =>
    cases hstep
    obtain ⟨hlimit, hwriting, hholds⟩ := h.stages hfound
    exact ⟨order, h.quiet hfound rfl rfl rfl .none rfl
      ⟨hlimit, ⟨hwriting.operation, hwriting.fits, hwriting.unplaced, hwriting.waits⟩, hholds, rfl⟩⟩
  | previousOpened options next file =>
    cases hstep
    obtain ⟨hlimit, hwriting, hholds, rfl⟩ := h.stages hfound
    exact ⟨order, h.quiet hfound rfl rfl rfl .none rfl
      ⟨hlimit, ⟨hwriting.operation, hwriting.fits, hwriting.unplaced, hwriting.waits⟩, hholds,
        (h.files next.sessionId).symm⟩⟩
  | previousRead options next raw => exact h.previousRead hfound hstep
  | storing next previous =>
    cases hstep
    refine ⟨order, h.truncated hfound fun other call hother hheld => ?_⟩
    refine hexclusive (tempFileOf directory next) ?_ other ?_
    · simp only [hfound, bind_some, Stage.opensTemp, mem_def]
    · rw [hother, bind_some, hheld]
  | truncated next previous file =>
    cases hstep
    exact ⟨order, h.written hfound⟩
  | written next previous =>
    simp only [FileStores.advance] at hstep
    split at hstep
    case h_1 hnone =>
      obtain ⟨-, -, -, hread⟩ := h.stages hfound
      obtain ⟨file, hlinked, -⟩ := map_eq_some_iff.mp hread
      simp only [Disk.rename, hlinked, map_some, reduceCtorEq] at hnone
    case h_2 disk hrename =>
      cases hstep
      exact ⟨_, h.renamed hfound hrename⟩
  | removing next => exact (h.stages hfound).elim
  | readDone result => cases hstep
  | writeDone result => cases hstep

theorem nextEnvelope_valid (options : StoreOptions) {e : Envelope} (h : e.valid = true) :
    (FileStores.nextEnvelope options e).valid = true := by
  unfold FileStores.nextEnvelope
  split
  case isTrue => exact redactEnvelope_valid h
  case isFalse => exact h

theorem Invariant.step (h : Invariant directory clock limit s order) {a : FileStores.Action Ticket}
    (hproper : Proper limit a) (hexclusive : Exclusive directory s a)
    (hstep : s.step directory clock a = some t) :
    ∃ order', Invariant directory clock limit t order' := by
  cases a with
  | read ticket options sessionId now =>
    simp only [FileStores.step] at hstep
    split at hstep
    case isTrue hfree =>
      cases hstep
      exact ⟨order, h.read hfree hproper sessionId now⟩
    case isFalse => cases hstep
  | write ticket options e =>
    obtain ⟨hlimit, hcreated, hsize⟩ := hproper
    have hvalid := nextEnvelope_valid options (createEnvelope_eq_ok.mp hcreated).1
    simp only [FileStores.step, Nat.not_lt.mpr (Nat.le_trans hsize hlimit), if_false] at hstep
    split at hstep
    case isTrue hfree =>
      cases hstep
      exact ⟨order, h.write hfree hlimit ⟨hvalid, rfl, hsize⟩⟩
    case isFalse => cases hstep
  | advance ticket =>
    obtain ⟨⟨operation, stage⟩, hfound, hstep⟩ := bind_eq_some_iff.mp hstep
    exact h.advance hfound hexclusive hstep

end Steps

section Refinement

theorem replay_not_rejected {clock : Int} {order : List (Ticket × Operation)} {ticket : Ticket}
    {e : Envelope} {reason : String} :
    (ticket, .write (.rejected e reason)) ∉ (replay clock order).2 := by
  induction order using List.reverseRecOn with
  | nil => exact not_mem_nil
  | append_singleton order last ih =>
    obtain ⟨caller, operation⟩ := last
    rw [replay_concat]
    intro hmem
    obtain hmem | hmem := mem_append.mp hmem
    · exact ih hmem
    · have hout := (Prod.mk.inj (mem_singleton.mp hmem)).2
      cases operation with
      | read sessionId now => cases hout
      | write next =>
        simp only [Memory.call, Memory.write, Outcome.write.injEq] at hout
        split at hout
        case h_1 => split at hout <;> first | cases hout | split at hout <;> cases hout
        case h_2 => split at hout <;> cases hout

/-- The outcomes and the files are those of the in-memory store run on the calls in this order,
and the file of a session holds an envelope of that session. -/
structure Linearizes (directory : String) (clock : Int) (s : FileStores Ticket)
    (order : List (Ticket × Operation)) : Prop where
  once : (order.map Prod.fst).Nodup
  calls {ticket : Ticket} {operation : Operation} : (ticket, operation) ∈ order →
    ∃ call, s.calls ticket = some call ∧ call.operation = operation
  outcomes {ticket : Ticket} {call : Call} {outcome : Outcome} : s.calls ticket = some call →
    call.stage.outcome = some outcome → (ticket, outcome) ∈ (replay clock order).2
  files (sessionId : String) : s.disk.read (toSessionFilePath directory sessionId) =
    ((replay clock order).1.get sessionId).map serialize
  owned {sessionId : String} {e : Envelope} :
    (replay clock order).1.get sessionId = some e → e.sessionId = sessionId

theorem Invariant.linearizes {directory : String} {clock : Int} {limit : Nat} {s : FileStores Ticket}
    {order : List (Ticket × Operation)} (h : Invariant directory clock limit s order) :
    Linearizes directory clock s order := by
  refine
    { once := h.once
      calls := h.placed
      outcomes := ?_
      files := h.files
      owned := fun hget => (h.fits hget).owner }
  intro ticket call outcome hfound hout
  have hstage := h.stages hfound
  obtain ⟨operation, stage⟩ := call
  cases stage with
  | readDone result =>
    cases hout
    exact hstage
  | writeDone result =>
    cases hout
    exact hstage
  | _ => cases hout

variable [DecidableEq Ticket]

end Refinement

section Runs

open FileStores

instance decidableExclusive {Caller : Type} [Fintype Caller] (directory : String)
    (s : FileStores Caller) : (a : Action Caller) → Decidable (Exclusive directory s a)
  | .read _ _ _ _ | .write _ _ _ => .isTrue trivial
  | .advance ticket =>
    inferInstanceAs (Decidable
      (∀ path ∈ (s.calls ticket).bind fun call => call.stage.opensTemp directory,
        ∀ other, ((s.calls other).bind fun call => call.stage.heldTemp directory) ≠ some path))

instance decidableProper {Caller : Type} (limit : Nat) :
    (a : Action Caller) → Decidable (Proper limit a)
  | .read _ options _ _ => inferInstanceAs (Decidable (limit ≤ options.maxBytes))
  | .write _ options e =>
    inferInstanceAs (Decidable (limit ≤ options.maxBytes ∧ createEnvelope e = .ok e ∧
      (serialize (nextEnvelope options e)).utf8ByteSize ≤ limit))
  | .advance _ => .isTrue trivial

def runOptions : StoreOptions := { maxBytes := 4096, redactOpaqueContinuation := true }

def runEnvelope (sessionId checkpointId : String) : Envelope :=
  { sessionId
    checkpointId
    actor :=
      { actorId := "actor", sessionId, turnId := "turn", traceId := "trace", commandId := "command",
        correlationId := "correlation", causationId := "causation" }
    deterministic := .obj []
    effect := none
    continuation := none
    reconciliation := { status := .clear, reason := none }
    recordedAt := "2025-01-01T00:00:00.000Z"
    expiresAt := none
    staleAt := none
    redactedFields := []
    metadata := none }

section Texts

theorem serialize_size_le {e : Envelope} {limit : Nat}
    (h : 4 * (e.toJson.text 2 0).length ≤ limit) : (serialize e).utf8ByteSize ≤ limit :=
  Nat.le_trans (Json.stringify_size_le 2 _) h

end Texts

abbrev Fitting (sessionId checkpointId : String) : Prop :=
  (runEnvelope sessionId checkpointId).valid = true ∧
    4 * ((runEnvelope sessionId checkpointId).toJson.text 2 0).length ≤ 4096

theorem fitting_runs : Fitting "a" "b.json.c" ∧ Fitting "b" "c" ∧ Fitting "a.json.b" "c" := by
  decide +kernel

theorem proper_runEnvelope {ticket : Ticket} {sessionId checkpointId : String}
    (h : Fitting sessionId checkpointId) :
    Proper 4096 (.write ticket runOptions (runEnvelope sessionId checkpointId)) :=
  ⟨Nat.le_refl _, createEnvelope_eq_ok.mpr ⟨h.1, rfl⟩, serialize_size_le h.2⟩

variable [DecidableEq Ticket]

def queue (directory : String) (s : FileStores Ticket) (ticket : Ticket) (e : Envelope) :
    FileStores Ticket :=
  (s.enqueue (toSessionFilePath directory e.sessionId) ticket).setCall ticket
    ⟨.write e, .queued runOptions e⟩

theorem step_runEnvelope (directory : String) {s : FileStores Ticket} {ticket : Ticket}
    {sessionId checkpointId : String} (h : Fitting sessionId checkpointId)
    (hfree : s.calls ticket = none) :
    s.step directory 0 (.write ticket runOptions (runEnvelope sessionId checkpointId)) =
      some (queue directory s ticket (runEnvelope sessionId checkpointId)) := by
  have hle : (serialize (nextEnvelope runOptions (runEnvelope sessionId checkpointId))).utf8ByteSize ≤
      runOptions.maxBytes := serialize_size_le h.2
  simp only [step, hfree, Nat.not_lt.mpr hle, if_true, if_false]
  rfl

def disjointRest : List (Action (Fin 3)) :=
  List.replicate 5 (.advance 0) ++ List.replicate 7 (.advance 1) ++
    List.replicate 2 (.advance 0) ++ [.read 2 runOptions "a" none, .advance 2, .advance 2]

def disjointRun : List (Action (Fin 3)) :=
  [.write 0 runOptions (runEnvelope "a" "b.json.c"), .write 1 runOptions (runEnvelope "b" "c")] ++
    disjointRest

def collidingRest : List (Action Bool) :=
  List.replicate 6 (.advance false) ++ List.replicate 6 (.advance true) ++
    [.advance false, .advance true, .advance true]

/-- Two sessions whose writes have one temporary file: the first rename takes what the second
write has put there, and the second finds nothing to rename. -/
def collidingRun : List (Action Bool) :=
  [.write false runOptions (runEnvelope "a" "b.json.c"),
    .write true runOptions (runEnvelope "a.json.b" "c")] ++ collidingRest

end Runs

end ActorWeb.SessionCheckpoint
