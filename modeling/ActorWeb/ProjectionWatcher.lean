import Mathlib.Data.List.Basic

namespace ActorWeb

inductive ActorStatus
  | idle | starting | running | stopping | stopped | error
deriving DecidableEq

/-- A snapshot as `toJSON` shows it; `content` is its value, context and error. -/
structure ActorSnapshot (Value : Type) where
  status : ActorStatus
  content : Option Value
deriving DecidableEq

def createFallbackSnapshot {Value : Type} (status : ActorStatus)
    (previousSnapshot : Option (ActorSnapshot Value)) : ActorSnapshot Value :=
  ⟨status, previousSnapshot.bind ActorSnapshot.content⟩

/-- A snapshot and the count of changes the actor had made when it had it. Nothing in
the code reads the count. -/
structure Stamped (Value : Type) where
  snapshot : ActorSnapshot Value
  version : Nat

structure SnapshotProjection (Value : Type) where
  sequence : Nat
  shown : Stamped Value

/-- The state of a transport status; `local` is for addresses that have no watcher. -/
inductive ProjectionTransportState
  | connected | replaying | degraded | disconnected
deriving DecidableEq

inductive FetchKind
  | prime | replay
deriving DecidableEq

/-- What a watcher shows of the actor and the last sequence number in its status. `gap`
records that a gap in the sequence was ever detected. -/
structure RemoteView (Value : Type) where
  shown : Stamped Value
  lastSequence : Option Nat
  gap : Bool

/-- What a watcher is told of the actor: updates and the answers to its own requests. -/
inductive Told (Value : Type)
  | snapshot (payload : SnapshotProjection Value)
  | event (sequence : Nat)
  | answer (kind : FetchKind) (projection : SnapshotProjection Value)

namespace RemoteView

variable {Value : Type}

def fresh : RemoteView Value :=
  { shown := ⟨createFallbackSnapshot .running none, 0⟩
    lastSequence := none
    gap := false }

variable (v : RemoteView Value)

def isStale (sequence : Nat) : Bool :=
  match v.lastSequence with
  | none => false
  | some previousSequence => sequence ≤ previousSequence

def skips (sequence : Nat) : Bool :=
  match v.lastSequence with
  | none => false
  | some previousSequence => previousSequence + 1 < sequence

def handleRemoteSnapshotProjection (payload : SnapshotProjection Value) :
    RemoteView Value :=
  if v.isStale payload.sequence then v
  else
    { shown := payload.shown
      lastSequence := some payload.sequence
      gap := v.gap || v.skips payload.sequence }

def handleRemoteEventProjection (sequence : Nat) : RemoteView Value :=
  if v.isStale sequence then v
  else { v with lastSequence := some sequence, gap := v.gap || v.skips sequence }

/-- The answer to a prime is shown as it is; the answer to a replay is handled like an
update, and then its sequence number is written in any case. -/
def fetched (kind : FetchKind) (projection : SnapshotProjection Value) :
    RemoteView Value :=
  match kind with
  | .prime => { v with shown := projection.shown, lastSequence := some projection.sequence }
  | .replay =>
    { v.handleRemoteSnapshotProjection projection with
      lastSequence := some projection.sequence }

def take : Told Value → RemoteView Value
  | .snapshot payload => v.handleRemoteSnapshotProjection payload
  | .event sequence => v.handleRemoteEventProjection sequence
  | .answer kind projection => v.fetched kind projection

end RemoteView

structure RemoteProjectionWatcher (Value : Type) where
  view : RemoteView Value
  state : ProjectionTransportState
  (snapshotSubscribed eventSubscribed : Bool)

namespace RemoteProjectionWatcher

variable {Value : Type} (w : RemoteProjectionWatcher Value)

def createRemoteProjectionWatcher (connected : Bool) : RemoteProjectionWatcher Value :=
  { view := RemoteView.fresh
    state := if connected then .replaying else .disconnected
    snapshotSubscribed := false
    eventSubscribed := false }

/-- The state after an update: a gap degrades it, and any update ends `disconnected`. -/
def updatedState (sequence : Nat) : ProjectionTransportState :=
  if w.view.isStale sequence then w.state
  else if w.view.skips sequence then .degraded
  else if w.state = .disconnected then .connected
  else w.state

def handleRemoteSnapshotProjection (payload : SnapshotProjection Value) :
    RemoteProjectionWatcher Value :=
  { w with
    view := w.view.handleRemoteSnapshotProjection payload
    state := w.updatedState payload.sequence }

def handleRemoteEventProjection (sequence : Nat) : RemoteProjectionWatcher Value :=
  { w with
    view := w.view.handleRemoteEventProjection sequence
    state := w.updatedState sequence }

/-- The end of `primeRemoteProjectionWatcher` or `replayRemoteProjectionWatcher` when its
request was answered. -/
def fetched (kind : FetchKind) (projection : SnapshotProjection Value) :
    RemoteProjectionWatcher Value :=
  { w with view := w.view.fetched kind projection, state := .connected }

def fetchFailed : FetchKind → RemoteProjectionWatcher Value
  | .prime => { w with state := .disconnected }
  | .replay => { w with state := .degraded }

end RemoteProjectionWatcher

namespace Told

variable {Value : Type}

def sequence : Told Value → Nat
  | snapshot payload => payload.sequence
  | event sequence => sequence
  | answer _ projection => projection.sequence

def carries : Told Value → Option (Stamped Value)
  | snapshot payload => some payload.shown
  | event _ => none
  | answer _ projection => some projection.shown

def isUpdate : Told Value → Bool
  | answer _ _ => false
  | _ => true

def isCompared : Told Value → Bool
  | answer .prime _ => false
  | _ => true

end Told

end ActorWeb
