import ActorWeb.OrderedMap
import Mathlib.Data.Rat.Floor

namespace ActorWeb.StreamHost

def normalizePositiveInteger (value : Option ℚ) (fallback : Nat) : Nat :=
  match value with
  | some q => if 0 < q then ⌊q⌋.toNat else fallback
  | none => fallback

inductive StreamMessage (Payload : Type)
  | open (streamId : String)
  | credit (streamId : String) (credit : Option ℚ)
  | chunk (streamId : String) (sequence : Nat) (payload : Payload)
  | close (streamId : String)
  | error (streamId code message : String)
deriving DecidableEq

def StreamMessage.streamId {Payload : Type} : StreamMessage Payload → String
  | .open sid | .credit sid _ | .chunk sid _ _ | .close sid | .error sid _ _ => sid

structure OutgoingStreamState (Payload : Type) where
  (streamId destination : String)
  pendingWrites : List Payload := []
  closePending : Bool := false
  nextSequence : Nat := 1
  credit : Nat := 0
  flushing : Bool := false
  closed : Bool := false
  closeRequested : Bool := false

structure Consumer where
  (onClose onError : Bool)

structure IncomingStreamState where
  (streamId source : String)
  consumer : Consumer
  expectedSequence : Nat := 1
  closed : Bool := false

inductive Handling (Payload : Type)
  | resolving (source : String) (remaining : List Nat)
  | consuming (i : Nat) (source : String) (sequence : Nat) (payload : Payload)
  | failing (i : Nat) (reply : Option (String × String × String))
  | closing (i : Nat)
  | sending

inductive Event (Payload : Type)
  | wrote (streamId : String) (payload : Payload)
  | closeCalled (streamId : String)
  | stopCalled
  | sendStarted (destination : String) (message : StreamMessage Payload)
  | registered (i : Nat)
  | chunkStarted (i sequence : Nat) (payload : Payload)
  | chunkConsumed (i sequence : Nat) (payload : Payload)
  | closeStarted (i : Nat)
  | errorStarted (i : Nat) (code : String)
  | hostError (code : String)
deriving DecidableEq

structure Host (Payload : Type) where
  initialCredit : Nat
  handlers : List Nat
  /-- The stream states created so far; a map entry holds the index of one. -/
  outgoing : Nat → OutgoingStreamState Payload
  nextOutgoing : Nat
  outgoingStreams : OrderedMap String Nat
  /-- The `open` calls whose send is awaited. -/
  opening : List String
  incoming : Nat → IncomingStreamState
  nextIncoming : Nat
  incomingStreams : OrderedMap String Nat
  /-- The messages chained behind the running handler of their stream. -/
  streamMessageQueues : String → List (String × StreamMessage Payload)
  running : String → Option (Handling Payload)
  /-- The outgoing streams whose drain loop awaits a chunk's send. -/
  draining : Nat → Bool
  stopped : Bool
  /-- `stop` awaits the `onError` of one incoming stream. -/
  stopping : Bool
  log : List (Event Payload)

variable {Payload : Type}

def create (initialCredit : Option ℚ) : Host Payload where
  initialCredit := normalizePositiveInteger initialCredit 1
  handlers := []
  outgoing := fun _ => { streamId := "", destination := "" }
  nextOutgoing := 0
  outgoingStreams := .empty
  opening := []
  incoming := fun _ => { streamId := "", source := "", consumer := ⟨false, false⟩ }
  nextIncoming := 0
  incomingStreams := .empty
  streamMessageQueues := fun _ => []
  running := fun _ => none
  draining := fun _ => false
  stopped := false
  stopping := false
  log := []

variable (h : Host Payload)

def Host.emit (e : Event Payload) : Host Payload := { h with log := h.log ++ [e] }

def Host.send (destination : String) (m : StreamMessage Payload) : Host Payload :=
  h.emit (.sendStarted destination m)

variable (i : Nat)

def Host.modifyOutgoing
    (f : OutgoingStreamState Payload → OutgoingStreamState Payload) : Host Payload :=
  { h with outgoing := Function.update h.outgoing i (f (h.outgoing i)) }

def Host.deleteOutgoing (sid : String) : Host Payload :=
  { h with outgoingStreams := h.outgoingStreams.delete sid }

def Host.setDraining (d : Bool) : Host Payload :=
  { h with draining := Function.update h.draining i d }

def Host.modifyIncoming (f : IncomingStreamState → IncomingStreamState) :
    Host Payload :=
  { h with incoming := Function.update h.incoming i (f (h.incoming i)) }

def Host.deleteIncoming (sid : String) : Host Payload :=
  { h with incomingStreams := h.incomingStreams.delete sid }

def Host.setHandling (sid : String) (t : Option (Handling Payload)) : Host Payload :=
  { h with running := Function.update h.running sid t }

def Host.addOutgoing (sid destination : String) : Host Payload :=
  { h with
    outgoing := Function.update h.outgoing h.nextOutgoing { streamId := sid, destination := destination }
    nextOutgoing := h.nextOutgoing + 1
    outgoingStreams := h.outgoingStreams.set sid h.nextOutgoing }

def Host.addIncoming (sid source : String) (consumer : Consumer) : Host Payload :=
  { h with
    incoming := Function.update h.incoming h.nextIncoming
      { streamId := sid, source := source, consumer := consumer }
    nextIncoming := h.nextIncoming + 1
    incomingStreams := h.incomingStreams.set sid h.nextIncoming }

def open_ (destination sid : String) : Host Payload :=
  if h.stopped || h.outgoingStreams.has sid || h.incomingStreams.has sid then h
  else ({ h.addOutgoing sid destination with opening := h.opening ++ [sid] }).send destination (.open sid)

/-- The awaited send of `open` settles; a rejection drops the map entry. -/
def openSettled (sid : String) (ok : Bool) : Host Payload :=
  if ok then { h with opening := h.opening.erase sid }
  else { h with opening := h.opening.erase sid }.deleteOutgoing sid

def finishCloseIfReady : Host Payload :=
  if (h.outgoing i).closed || !(h.outgoing i).closeRequested || (h.outgoing i).flushing ||
      !(h.outgoing i).pendingWrites.isEmpty then h
  else
    ((h.modifyOutgoing i fun o => { o with closed := true }).deleteOutgoing (h.outgoing i).streamId).send
      (h.outgoing i).destination (.close (h.outgoing i).streamId)

/-- The `finally` block of the drain loop. The loop has just stopped for want
of credit, of writes or of an open stream, so there is nothing to flush. -/
def leaveDrain : Host Payload :=
  finishCloseIfReady (h.modifyOutgoing i fun o => { o with flushing := false }) i

def drainOutgoing : Host Payload :=
  match (h.outgoing i).pendingWrites with
  | payload :: rest =>
    if !(h.outgoing i).closed && 0 < (h.outgoing i).credit then
      ((h.modifyOutgoing i fun o => { o with
          pendingWrites := rest
          nextSequence := o.nextSequence + 1
          credit := o.credit - 1 }).setDraining i true).send (h.outgoing i).destination
        (.chunk (h.outgoing i).streamId (h.outgoing i).nextSequence payload)
    else leaveDrain h i
  | [] => leaveDrain h i

def flushOutgoing : Host Payload :=
  if (h.outgoing i).flushing then h
  else drainOutgoing (h.modifyOutgoing i fun o => { o with flushing := true }) i

def failOutgoingState : Host Payload :=
  (h.modifyOutgoing i fun o => { o with closed := true, pendingWrites := [] }).deleteOutgoing
    (h.outgoing i).streamId

def drainSettled (ok : Bool) : Host Payload :=
  if ok then drainOutgoing (h.setDraining i false) i
  else leaveDrain (failOutgoingState (h.setDraining i false) i) i

def write (sid : String) (payload : Payload) : Host Payload :=
  if h.stopped then h
  else
    match h.outgoingStreams.get sid with
    | none => h
    | some i =>
      if (h.outgoing i).closed || (h.outgoing i).closeRequested then h
      else
        flushOutgoing
          (h.modifyOutgoing i fun o => { o with pendingWrites := o.pendingWrites ++ [payload] }) i

def closeOutgoing (sid : String) : Host Payload :=
  if h.stopped then h
  else
    match h.outgoingStreams.get sid with
    | none => h
    | some i =>
      if (h.outgoing i).closed || (h.outgoing i).closePending then h
      else
        finishCloseIfReady
          (h.modifyOutgoing i fun o => { o with closeRequested := true, closePending := true }) i

def errorOutgoing (sid code message : String) : Host Payload :=
  match h.outgoingStreams.get sid with
  | none => h
  | some i =>
    if (h.outgoing i).closed then h
    else
      ((h.modifyOutgoing i fun o => { o with closed := true, pendingWrites := [] }).deleteOutgoing
        sid).send (h.outgoing i).destination (.error sid code message)

def failIncomingState (code : String) : Host Payload :=
  if (h.incoming i).consumer.onError then
    ((h.modifyIncoming i fun s => { s with closed := true }).deleteIncoming
      (h.incoming i).streamId).emit (.errorStarted i code)
  else
    (h.modifyIncoming i fun s => { s with closed := true }).deleteIncoming (h.incoming i).streamId

def replyLast (sid destination : String) (m : StreamMessage Payload) : Host Payload :=
  (h.send destination m).setHandling sid (some .sending)

variable (source sid : String)

def grantCredit (credit : Nat) : Host Payload :=
  replyLast h sid source (.credit sid (some credit))

def sendStreamError (source sid code message : String) : Host Payload :=
  replyLast h sid source (.error sid code message)

def streamNotHandled : Host Payload :=
  sendStreamError h source sid "stream_not_handled"
    ("Runtime transport stream \"" ++ sid ++ "\" has no receiver.")

def handleOpen (h : Host Payload) (source sid : String) : Host Payload :=
  if h.incomingStreams.has sid || h.outgoingStreams.has sid then
    sendStreamError h source sid "duplicate_stream"
      ("Runtime transport stream \"" ++ sid ++ "\" is already open.")
  else h.setHandling sid (some (.resolving source h.handlers))

/-- `handleOpen` once `resolveConsumer` has found a consumer. -/
def registerIncoming (consumer : Consumer) : Host Payload :=
  grantCredit ((h.addIncoming sid source consumer).emit (.registered h.nextIncoming)) source sid
    h.initialCredit

def handleCredit (credit : Option ℚ) : Host Payload :=
  match h.outgoingStreams.get sid with
  | none => h
  | some i =>
    if (h.outgoing i).closed then h
    else if (h.outgoing i).destination ≠ source then h.emit (.hostError "stream_source_mismatch")
    else
      flushOutgoing
        (h.modifyOutgoing i fun o => { o with credit := o.credit + normalizePositiveInteger credit 0 }) i

def unknownStream : Host Payload :=
  sendStreamError h source sid "unknown_stream"
    ("Runtime transport stream \"" ++ sid ++ "\" is not open.")

def sequenceMismatch (sid : String) (expected received : Nat) : String :=
  "Runtime transport stream \"" ++ sid ++ "\" expected sequence " ++ toString expected ++
    " but received " ++ toString received ++ "."

def handleChunk (sequence : Nat) (payload : Payload) :
    Host Payload :=
  match h.incomingStreams.get sid with
  | none => unknownStream h source sid
  | some i =>
    if (h.incoming i).closed then unknownStream h source sid
    else if (h.incoming i).source ≠ source then h.emit (.hostError "stream_source_mismatch")
    else if sequence ≠ (h.incoming i).expectedSequence then
      (failIncomingState h i "sequence_mismatch").setHandling sid (some (.failing i (some
        (source, "sequence_mismatch", sequenceMismatch sid (h.incoming i).expectedSequence sequence))))
    else
      (h.emit (.chunkStarted i sequence payload)).setHandling sid
        (some (.consuming i source sequence payload))

def chunkSettled (sid : String) (i : Nat) (source : String) (sequence : Nat)
    (payload : Payload) : Option String → Host Payload
  | none =>
    grantCredit ((h.emit (.chunkConsumed i sequence payload)).modifyIncoming i fun s =>
      { s with expectedSequence := s.expectedSequence + 1 }) source sid 1
  | some failure =>
    (failIncomingState h i "consumer_failed").setHandling sid
      (some (.failing i (some (source, "consumer_failed", failure))))

def handleClose : Host Payload :=
  match h.incomingStreams.get sid with
  | none => h
  | some i =>
    if (h.incoming i).source ≠ source then h.emit (.hostError "stream_source_mismatch")
    else if (h.incoming i).consumer.onClose then
      (((h.modifyIncoming i fun s => { s with closed := true }).deleteIncoming sid).emit
        (.closeStarted i)).setHandling sid (some (.closing i))
    else
      ((h.modifyIncoming i fun s => { s with closed := true }).deleteIncoming sid).setHandling sid
        (some (.closing i))

/-- The first half of `handleError`, which concerns an outgoing stream. -/
def handleOutgoingError : Host Payload :=
  match h.outgoingStreams.get sid with
  | none => h
  | some i =>
    if (h.outgoing i).destination = source then failOutgoingState h i
    else h.emit (.hostError "stream_source_mismatch")

def handleIncomingError (source sid code : String) : Host Payload :=
  match h.incomingStreams.get sid with
  | none => h
  | some i =>
    if (h.incoming i).source = source then
      (failIncomingState h i code).setHandling sid (some (.failing i none))
    else h.emit (.hostError "stream_source_mismatch")

def handleError (source sid code : String) : Host Payload :=
  handleIncomingError (handleOutgoingError h source sid) source sid code

def handleStreamMessage (source : String) : StreamMessage Payload → Host Payload
  | .open sid => handleOpen h source sid
  | .credit sid credit => handleCredit h source sid credit
  | .chunk sid sequence payload => handleChunk h source sid sequence payload
  | .close sid => handleClose h source sid
  | .error sid code _ => handleError h source sid code

def Host.setQueue (sid : String) (q : List (String × StreamMessage Payload)) :
    Host Payload :=
  { h with streamMessageQueues := Function.update h.streamMessageQueues sid q }

def enqueueStreamMessage (source : String) (m : StreamMessage Payload) : Host Payload :=
  h.setQueue m.streamId (h.streamMessageQueues m.streamId ++ [(source, m)])

/-- The body of a queued task: nothing is handled once the host has stopped. -/
def startTask (source : String) (m : StreamMessage Payload) : Host Payload :=
  if h.stopped then h else handleStreamMessage h source m

/-- The next incoming stream of the loop in `stop`, or its end. The loop
deletes what it visits, so the next entry is the first one left. -/
def stopNext : Host Payload :=
  match h.incomingStreams.values with
  | i :: _ => { failIncomingState h i "stream_host_stopped" with stopping := true }
  | [] =>
    { h with
      stopping := false
      outgoingStreams := .empty
      incomingStreams := .empty
      handlers := [] }

def stop : Host Payload :=
  if h.stopped then h
  else stopNext (h.outgoingStreams.values.foldl failOutgoingState { h.emit .stopCalled with stopped := true })

inductive Action (Payload : Type)
  | subscribe (handler : Nat)
  | unsubscribe (handler : Nat)
  | open (destination streamId : String)
  | openSettled (streamId : String) (ok : Bool)
  | write (streamId : String) (payload : Payload)
  | close (streamId : String)
  | error (streamId code message : String)
  | drainSettled (i : Nat) (ok : Bool)
  | receive (source : String) (message : StreamMessage Payload)
  | taskStarts (streamId : String)
  | handlerReturned (streamId : String) (consumer : Option Consumer)
  | handlerThrew (streamId : String)
  | chunkSettled (streamId : String) (failure : Option String)
  | callbackSettled (streamId : String) (ok : Bool)
  | sendSettled (streamId : String) (ok : Bool)
  | stop
  | stopResumes (ok : Bool)

/-- `resolveConsumer` asks the handlers one by one and takes the first consumer. -/
def handlerReturned (sid source : String) :
    List Nat → Option Consumer → Option (Host Payload)
  | _ :: _, some consumer => some (registerIncoming h source sid consumer)
  | _ :: next :: rest, none => some (h.setHandling sid (some (.resolving source (next :: rest))))
  | _, none => some (streamNotHandled h source sid)
  | [], some _ => none

/-- An `onError` callback settles inside `failIncomingState`, which swallows its failure. -/
def errorHandlerSettled (ok : Bool) : Host Payload :=
  if ok then h else h.emit (.hostError "stream_consumer_error_handler_failed")

def callbackSettled (sid : String) (ok : Bool) : Option (Host Payload) :=
  match h.running sid with
  | some (.failing _ (some (source, code, message))) =>
    some (sendStreamError (errorHandlerSettled h ok) source sid code message)
  | some (.failing _ none) => some ((errorHandlerSettled h ok).setHandling sid none)
  | some (.closing _) =>
    some ((if ok then h else h.emit (.hostError "stream_handler_failed")).setHandling sid none)
  | _ => none

def step : Action Payload → Option (Host Payload)
  | .subscribe handler => some { h with handlers := h.handlers.insert handler }
  | .unsubscribe handler => some { h with handlers := h.handlers.filter (· ≠ handler) }
  | .open destination sid => some (open_ h destination sid)
  | .openSettled sid ok => if sid ∈ h.opening then some (openSettled h sid ok) else none
  | .write sid payload => some (write (h.emit (.wrote sid payload)) sid payload)
  | .close sid => some (closeOutgoing (h.emit (.closeCalled sid)) sid)
  | .error sid code message => some (errorOutgoing h sid code message)
  | .drainSettled i ok => if h.draining i then some (drainSettled h i ok) else none
  | .receive source m => if h.stopped then none else some (enqueueStreamMessage h source m)
  | .taskStarts sid =>
    match h.running sid, h.streamMessageQueues sid with
    | none, (source, m) :: rest => some (startTask (h.setQueue sid rest) source m)
    | _, _ => none
  | .handlerReturned sid consumer =>
    match h.running sid with
    | some (.resolving source remaining) => handlerReturned h sid source remaining consumer
    | _ => none
  | .handlerThrew sid =>
    match h.running sid with
    | some (.resolving _ (_ :: _)) =>
      some ((h.emit (.hostError "stream_handler_failed")).setHandling sid none)
    | _ => none
  | .chunkSettled sid failure =>
    match h.running sid with
    | some (.consuming i source sequence payload) =>
      some (chunkSettled h sid i source sequence payload failure)
    | _ => none
  | .callbackSettled sid ok => callbackSettled h sid ok
  | .sendSettled sid ok =>
    match h.running sid with
    | some .sending =>
      some ((if ok then h else h.emit (.hostError "stream_handler_failed")).setHandling sid none)
    | _ => none
  | .stop => some (stop h)
  | .stopResumes ok => if h.stopping then some (stopNext (errorHandlerSettled h ok)) else none

end ActorWeb.StreamHost
