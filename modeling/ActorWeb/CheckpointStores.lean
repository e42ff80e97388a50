import ActorWeb.Disk
import ActorWeb.OrderedMap
import ActorWeb.SessionCheckpoint

namespace ActorWeb.SessionCheckpoint

open List JsText Function

inductive FoundOutcome
  | present | stale | expired | redacted
deriving DecidableEq

inductive ReadResult
  | missing (sessionId : String)
  | found (outcome : FoundOutcome) (envelope : Envelope) (fields : Option (List String))
  | corrupt (sessionId detail : String)
  | versionMismatch (sessionId : String) (foundVersion : Option JsonNumber)
deriving DecidableEq

inductive WriteResult
  | stored (envelope : Envelope)
  | replaced (envelope previous : Envelope)
  | duplicate (envelope previous : Envelope)
  | tooLarge (envelope : Envelope) (sizeBytes maxBytes : Nat)
  | expired (envelope : Envelope)
  | rejected (envelope : Envelope) (reason : String)
deriving DecidableEq

def toDateMs (value : Option String) : Option Int := value.bind dateParse

def due (value : Option String) (now : Int) : Bool := (toDateMs value).any fun ms => ms ≤ now

def Envelope.continuationExpiresAt (e : Envelope) : Option String :=
  e.continuation.bind fun c => c.expiresAt.join

def classifyReadResult (e : Envelope) (now : Int) : ReadResult :=
  if due e.expiresAt now then .found .expired e none
  else if due e.continuationExpiresAt now then .found .expired e none
  else if due e.staleAt now then .found .stale e none
  else if e.redactedFields ≠ [] ∨
      e.continuation.any (fun c => c.redaction.disposition = .metadataOnly) then
    .found .redacted e (some (if e.redactedFields ≠ [] then e.redactedFields
      else (e.continuation.map fun c => c.redaction.fields).getD []))
  else .found .present e none

def ReadResult.envelope : ReadResult → Option Envelope
  | .found _ e _ => some e
  | .missing _ | .corrupt _ _ | .versionMismatch _ _ => none

def isDuplicateReadResult (r : ReadResult) (checkpointId : String) : Bool :=
  r.envelope.any fun e => e.checkpointId = checkpointId

theorem classifyReadResult_envelope (e : Envelope) (now : Int) :
    (classifyReadResult e now).envelope = some e := by
  unfold classifyReadResult
  split
  case isTrue => rfl
  split
  case isTrue => rfl
  split
  case isTrue => rfl
  split <;> rfl

def Envelope.expiredAt (e : Envelope) (now : Int) : Bool :=
  due e.expiresAt now || due e.continuationExpiresAt now

section Memory

def writeResult (next : Envelope) : Option Envelope → WriteResult
  | some previous => .replaced next previous
  | none => .stored next

inductive Operation
  | read (sessionId : String) (now : Option Int)
  | write (envelope : Envelope)

inductive Outcome
  | read (result : ReadResult)
  | write (result : WriteResult)
deriving DecidableEq

abbrev Memory := OrderedMap String Envelope

variable (clock : Int)

def Memory.read (m : Memory) (sessionId : String) (now : Option Int) : ReadResult :=
  match m.get sessionId with
  | none => .missing sessionId
  | some e => classifyReadResult e (now.getD clock)

def Memory.write (m : Memory) (e : Envelope) : Memory × WriteResult :=
  match m.get e.sessionId with
  | some previous =>
    if isDuplicateReadResult (classifyReadResult previous clock) e.checkpointId then
      (m, .duplicate previous previous)
    else if e.expiredAt clock then (m, .expired e)
    else (m.set e.sessionId e, .replaced e previous)
  | none => if e.expiredAt clock then (m, .expired e) else (m.set e.sessionId e, .stored e)

def Memory.call (m : Memory) : Operation → Memory × Outcome
  | .read sessionId now => (m, .read (m.read clock sessionId now))
  | .write e => ((m.write clock e).1, .write (m.write clock e).2)

variable {Ticket : Type}

section Write

variable {m : Memory} {e : Envelope} {clock}

theorem Memory.write_duplicate {previous : Envelope}
    (h : (m.get e.sessionId).filter (fun p => p.checkpointId = e.checkpointId) = some previous) :
    m.write clock e = (m, .duplicate previous previous) := by
  obtain ⟨hget, hid⟩ := Option.filter_eq_some_iff.mp h
  rw [Memory.write, hget]
  simp only [isDuplicateReadResult, classifyReadResult_envelope, Option.any_some, hid, if_true]

theorem Memory.write_fresh
    (h : (m.get e.sessionId).filter (fun p => p.checkpointId = e.checkpointId) = none) :
    m.write clock e =
      if e.expiredAt clock then (m, .expired e)
      else (m.set e.sessionId e, writeResult e (m.get e.sessionId)) := by
  unfold Memory.write
  split
  case h_1 previous hget =>
    rw [hget, Option.filter_some] at h
    have hid : ¬ (decide (previous.checkpointId = e.checkpointId)) = true := by
      intro hid
      rw [if_pos hid] at h
      cases h
    simp only [isDuplicateReadResult, classifyReadResult_envelope, Option.any_some, hid, hget,
      Bool.false_eq_true, if_false, writeResult]
  case h_2 hget => simp only [hget, writeResult]

end Write

/-- The in-memory store run on calls one after the other, and the outcome of each. -/
def replay (order : List (Ticket × Operation)) : Memory × List (Ticket × Outcome) :=
  order.foldl (fun acc c => ((acc.1.call clock c.2).1, acc.2 ++ [(c.1, (acc.1.call clock c.2).2)]))
    (OrderedMap.empty, [])

theorem replay_concat (order : List (Ticket × Operation)) (ticket : Ticket) (op : Operation) :
    replay clock (order ++ [(ticket, op)]) =
      (((replay clock order).1.call clock op).1,
        (replay clock order).2 ++ [(ticket, ((replay clock order).1.call clock op).2)]) := by
  simp only [replay, foldl_append, foldl_cons, foldl_nil]

end Memory

section Files

def toSessionFilePath (directory sessionId : String) : String :=
  directory ++ "/" ++ encodeURIComponent sessionId ++ ".json"

def toTempFilePath (filePath checkpointId : String) : String :=
  filePath ++ "." ++ encodeURIComponent checkpointId ++ ".tmp"

def tempFileOf (directory : String) (e : Envelope) : String :=
  toTempFilePath (toSessionFilePath directory e.sessionId) e.checkpointId

theorem toSessionFilePath_injective {directory sessionId other : String}
    (h : toSessionFilePath directory sessionId = toSessionFilePath directory other) :
    sessionId = other := by
  have hlist := congrArg String.toList h
  simp only [toSessionFilePath, String.toList_append, append_assoc, append_cancel_left_eq,
    append_cancel_right_eq] at hlist
  exact encodeURIComponent_injective (String.toList_injective hlist)

theorem sessionFile_ne_tempFile (directory sessionId : String) (e : Envelope) :
    toSessionFilePath directory sessionId ≠ tempFileOf directory e := by
  intro h
  have hlast := congrArg (fun path => path.toList.getLast?) h
  have htext : ∀ text : List Char, (text ++ ".json".toList).getLast? = some 'n' := by
    intro text
    rw [getLast?_append_of_ne_nil _ (by decide)]
    decide
  have htemp : ∀ text : List Char, (text ++ ".tmp".toList).getLast? = some 'p' := by
    intro text
    rw [getLast?_append_of_ne_nil _ (by decide)]
    decide
  simp only [toSessionFilePath, tempFileOf, toTempFilePath, String.toList_append, htext, htemp,
    Option.some.injEq] at hlast
  exact absurd hlast (by decide)

structure StoreOptions where
  maxBytes : Nat
  redactOpaqueContinuation : Bool

def readCheckpoint (maxBytes : Nat) (sessionId : String) (raw : Option String) (now : Int) :
    ReadResult :=
  match raw with
  | none => .missing sessionId
  | some text =>
    if maxBytes < text.utf8ByteSize then .corrupt sessionId "checkpoint_too_large"
    else
      match Json.parse text with
      | none => .corrupt sessionId "invalid_json"
      | some json =>
        match parseEnvelope json with
        | .corrupt => .corrupt sessionId "Checkpoint file is malformed or not JSON-safe."
        | .versionMismatch foundVersion => .versionMismatch sessionId foundVersion
        | .ok e =>
          if e.sessionId ≠ sessionId then .corrupt sessionId "session_id_mismatch"
          else classifyReadResult e now

section Found

variable {maxBytes limit : Nat}

theorem readCheckpoint_serialize {e : Envelope} (hvalid : e.valid = true)
    (hsize : (serialize e).utf8ByteSize ≤ maxBytes) (now : Int) :
    readCheckpoint maxBytes e.sessionId (some (serialize e)) now = classifyReadResult e now := by
  simp only [readCheckpoint, Nat.not_lt.mpr hsize, if_false]
  rw [serialize, Json.parse_stringify]
  simp only [parseEnvelope_toJson hvalid, ne_eq, not_true_eq_false, if_false]

structure Fits (limit : Nat) (sessionId : String) (e : Envelope) : Prop where
  valid : e.valid = true
  owner : e.sessionId = sessionId
  size : (serialize e).utf8ByteSize ≤ limit

variable {clock : Int} {m : Memory}

theorem readCheckpoint_memory {sessionId : String}
    (hfits : ∀ e, m.get sessionId = some e → Fits limit sessionId e) (hlimit : limit ≤ maxBytes)
    (now : Option Int) :
    readCheckpoint maxBytes sessionId ((m.get sessionId).map serialize) (now.getD clock) =
      m.read clock sessionId now := by
  unfold Memory.read
  cases hget : m.get sessionId with
  | none => rfl
  | some e =>
    obtain ⟨hvalid, rfl, hsize⟩ := hfits e hget
    exact readCheckpoint_serialize hvalid (Nat.le_trans hsize hlimit) (now.getD clock)

theorem Memory.read_envelope (sessionId : String) (now : Option Int) :
    (m.read clock sessionId now).envelope = m.get sessionId := by
  unfold Memory.read
  cases m.get sessionId with
  | none => rfl
  | some e => exact classifyReadResult_envelope e _

end Found

/-- The await that a call is at. A write holds the lock of its session's file from `locked` on. -/
inductive Stage
  | reading (options : StoreOptions) (sessionId : String) (now : Option Int)
  | readOpened (options : StoreOptions) (sessionId : String) (now : Option Int) (file : Option Nat)
  | readDone (result : ReadResult)
  | queued (options : StoreOptions) (next : Envelope)
  | locked (options : StoreOptions) (next : Envelope)
  | previousOpened (options : StoreOptions) (next : Envelope) (file : Option Nat)
  | previousRead (options : StoreOptions) (next : Envelope) (raw : Option String)
  | storing (next : Envelope) (previous : Option Envelope)
  | truncated (next : Envelope) (previous : Option Envelope) (file : Nat)
  | written (next : Envelope) (previous : Option Envelope)
  | removing (next : Envelope)
  | writeDone (result : WriteResult)

def Stage.outcome : Stage → Option Outcome
  | .readDone result => some (.read result)
  | .writeDone result => some (.write result)
  | _ => none

def Stage.next : Stage → Option Envelope
  | .queued _ e | .locked _ e | .previousOpened _ e _ | .previousRead _ e _ | .storing e _
  | .truncated e _ _ | .written e _ | .removing e => some e
  | .reading _ _ _ | .readOpened _ _ _ _ | .readDone _ | .writeDone _ => none

/-- A call to one of the stores, as the in-memory store would be called. -/
structure Call where
  operation : Operation
  stage : Stage

/-- The files of the directory, the chain of writes of each session's file and the calls. -/
structure FileStores (Ticket : Type) where
  disk : Disk String
  locks : String → List Ticket
  calls : Ticket → Option Call

namespace FileStores

variable {Ticket : Type}

def start : FileStores Ticket :=
  { disk := Disk.empty, locks := fun _ => [], calls := fun _ => none }

inductive Action (Ticket : Type)
  | read (ticket : Ticket) (options : StoreOptions) (sessionId : String) (now : Option Int)
  | write (ticket : Ticket) (options : StoreOptions) (envelope : Envelope)
  | advance (ticket : Ticket)

def nextEnvelope (options : StoreOptions) (envelope : Envelope) : Envelope :=
  if options.redactOpaqueContinuation then redactEnvelope envelope else envelope

def previousEnvelope (clock : Int) (options : StoreOptions) (next : Envelope)
    (raw : Option String) : Option Envelope :=
  (readCheckpoint options.maxBytes next.sessionId raw clock).envelope

theorem previousEnvelope_memory {limit : Nat} {clock : Int} {options : StoreOptions}
    {next : Envelope} {m : Memory}
    (hfits : ∀ e, m.get next.sessionId = some e → Fits limit next.sessionId e)
    (hlimit : limit ≤ options.maxBytes) :
    previousEnvelope clock options next ((m.get next.sessionId).map serialize) =
      m.get next.sessionId := by
  calc previousEnvelope clock options next ((m.get next.sessionId).map serialize)
      = (m.read clock next.sessionId none).envelope :=
        congrArg ReadResult.envelope (readCheckpoint_memory hfits hlimit none)
    _ = m.get next.sessionId := Memory.read_envelope next.sessionId none

variable [DecidableEq Ticket] (directory : String)

variable (s : FileStores Ticket)

def setCall (ticket : Ticket) (call : Call) : FileStores Ticket :=
  { s with calls := update s.calls ticket (some call) }

def enqueue (path : String) (ticket : Ticket) : FileStores Ticket :=
  { s with locks := update s.locks path (s.locks path ++ [ticket]) }

def release (path : String) : FileStores Ticket :=
  { s with locks := update s.locks path (s.locks path).tail }

/-- A call goes on from its await, `none` while it has to wait or is done. -/
def advance (clock : Int) (s : FileStores Ticket) (ticket : Ticket) (operation : Operation) :
    Stage → Option (FileStores Ticket)
  | .reading options sessionId now =>
    some (s.setCall ticket ⟨operation,
      .readOpened options sessionId now (s.disk.links (toSessionFilePath directory sessionId))⟩)
  | .readOpened options sessionId now file =>
    some (s.setCall ticket ⟨operation, .readDone
      (readCheckpoint options.maxBytes sessionId (file.map s.disk.texts) (now.getD clock))⟩)
  | .queued options next =>
    if (s.locks (toSessionFilePath directory next.sessionId)).head? = some ticket then
      some (s.setCall ticket ⟨operation, .locked options next⟩)
    else none
  | .locked options next =>
    some (s.setCall ticket ⟨operation, .previousOpened options next
      (s.disk.links (toSessionFilePath directory next.sessionId))⟩)
  | .previousOpened options next file =>
    some (s.setCall ticket ⟨operation,
      .previousRead options next (file.map s.disk.texts)⟩)
  | .previousRead options next raw =>
    let path := toSessionFilePath directory next.sessionId
    let previous := previousEnvelope clock options next raw
    match previous.filter fun e => e.checkpointId = next.checkpointId with
    | some e => some ((s.release path).setCall ticket ⟨operation, .writeDone (.duplicate e e)⟩)
    | none =>
      if next.expiredAt clock then
        some ((s.release path).setCall ticket ⟨operation, .writeDone (.expired next)⟩)
      else some (s.setCall ticket ⟨operation, .storing next previous⟩)
  | .storing next previous =>
    let opened := s.disk.truncate (tempFileOf directory next)
    some ({ s with disk := opened.1 }.setCall ticket
      ⟨operation, .truncated next previous opened.2⟩)
  | .truncated next previous file =>
    some ({ s with disk := s.disk.write file (serialize next) }.setCall ticket
      ⟨operation, .written next previous⟩)
  | .written next previous =>
    let path := toSessionFilePath directory next.sessionId
    match s.disk.rename (tempFileOf directory next) path with
    | none => some (s.setCall ticket ⟨operation, .removing next⟩)
    | some disk =>
      some (({ s with disk := disk }.release path).setCall ticket
        ⟨operation, .writeDone (writeResult next previous)⟩)
  | .removing next =>
    some (({ s with disk := s.disk.remove (tempFileOf directory next) }.release
      (toSessionFilePath directory next.sessionId)).setCall ticket
        ⟨operation, .writeDone (.rejected next "filesystem_write_failed")⟩)
  | .readDone _ | .writeDone _ => none

def step (clock : Int) (s : FileStores Ticket) : Action Ticket → Option (FileStores Ticket)
  | .read ticket options sessionId now =>
    if s.calls ticket = none then
      some (s.setCall ticket ⟨.read sessionId now, .reading options sessionId now⟩)
    else none
  | .write ticket options envelope =>
    if s.calls ticket = none then
      let next := nextEnvelope options envelope
      let sizeBytes := (serialize next).utf8ByteSize
      if options.maxBytes < sizeBytes then
        some (s.setCall ticket
          ⟨.write next, .writeDone (.tooLarge next sizeBytes options.maxBytes)⟩)
      else
        some ((s.enqueue (toSessionFilePath directory next.sessionId) ticket).setCall ticket
          ⟨.write next, .queued options next⟩)
    else none
  | .advance ticket =>
    (s.calls ticket).bind fun call => s.advance directory clock ticket call.operation call.stage

end FileStores

end Files

end ActorWeb.SessionCheckpoint
