import ActorWeb.Json

namespace ActorWeb.JsonNumber

def ofInt : Int → JsonNumber
  | .ofNat n => ofNat n
  | .negSucc n =>
    { digits := '-' :: Nat.toDigits 10 (n + 1)
      nonempty := List.cons_ne_nil _ _
      numeral := by
        have hdigits : (Nat.toDigits 10 (n + 1)).all numeralChar = true := (ofNat (n + 1)).numeral
        rw [List.all_cons, hdigits]
        decide }

end ActorWeb.JsonNumber

namespace ActorWeb.SessionActor

def integer (n : Int) : Json := .num (.ofInt n)

inductive FailureCode
  | invalidTransition | providerError | providerRequired | sessionClosed | sessionMissing
  | turnActive | turnMissing

structure Failure where
  code : FailureCode
  message : String
  retryable : Bool
  details : Option Json

inductive SessionStatus
  | opened | closed
deriving DecidableEq

structure SessionProjection where
  id : String
  status : SessionStatus
  openedAt : String
  closedAt : Option String

structure ProviderProjection where
  (id attachedAt : String)
  metadata : Option Json

inductive TurnStatus
  | active | completed | cancelled | failed
deriving DecidableEq

structure TurnProjection where
  id : String
  status : TurnStatus
  (submittedAt output : String)
  sequence : Int
  (checkpoint completedAt cancelledAt failedAt cancelReason : Option String)
  failure : Option Failure
  input : Json

inductive CommandType
  | createSession | attachProvider | submitTurn | cancelTurn | closeSession | observeProviderFact

structure FactBase where
  turnId : String
  sequence : Int
  checkpoint : Option String

inductive ObservedProviderFact
  | providerDelta (base : FactBase) (delta observedAt : String)
  | turnCompleted (base : FactBase) (completedAt output : String)
  | turnCancelled (base : FactBase) (cancelledAt : String) (reason : Option String)
  | turnFailed (base : FactBase) (failedAt : String) (failure : Failure)

inductive Fact
  | sessionCreated (sessionId openedAt : String)
  | providerAttached (sessionId providerId attachedAt : String) (metadata : Option Json)
  | turnSubmitted (sessionId providerId turnId submittedAt : String) (input : Json)
  | observed (sessionId providerId : String) (fact : ObservedProviderFact)
  | sessionClosed (sessionId closedAt : String)
  | commandRejected (sessionId : Option String) (command : CommandType) (observedAt : String)
      (failure : Failure)

inductive Command
  | createSession (sessionId openedAt : String)
  | attachProvider (providerId attachedAt : String) (metadata : Option Json)
  | submitTurn (turnId submittedAt : String) (input : Json)
  | cancelTurn (cancelledAt : String) (reason : Option String)
  | closeSession (closedAt : String)
  | observeProviderFact (fact : ObservedProviderFact)

def Command.type : Command → CommandType
  | .createSession _ _ => .createSession
  | .attachProvider _ _ _ => .attachProvider
  | .submitTurn _ _ _ => .submitTurn
  | .cancelTurn _ _ => .cancelTurn
  | .closeSession _ => .closeSession
  | .observeProviderFact _ => .observeProviderFact

structure Projection where
  session : Option SessionProjection
  provider : Option ProviderProjection
  turn : Option TurnProjection
  checkpoint : Option String
  lastFact : Option Fact
  failure : Option Failure

def createInitialProjection : Projection :=
  { session := none
    provider := none
    turn := none
    checkpoint := none
    lastFact := none
    failure := none }

variable (p : Projection)

def hasActiveTurn : Bool := p.turn.any fun t => t.status = .active

def clearFailure : Projection := { p with failure := none }

variable (command : CommandType)

def rejectCommand (observedAt message : String)
    (details : Option Json) : Projection :=
  let failure : Failure :=
    { code := .invalidTransition, message, retryable := false, details }
  { p with
    lastFact :=
      some (.commandRejected (p.session.map SessionProjection.id) command observedAt failure)
    failure := some failure }

def requireOpenSession (observedAt : String) :
    Option Projection :=
  match p.session with
  | none => some (rejectCommand p command observedAt "Session has not been created." none)
  | some session =>
    if session.status ≠ .opened then
      some (rejectCommand p command observedAt "Session is already closed." none)
    else none

def requireAttachedProvider (observedAt : String) :
    Option Projection :=
  match p.provider with
  | none => some (rejectCommand p command observedAt "Provider must be attached first." none)
  | some _ => none

def requireActiveTurn (observedAt : String) :
    Option Projection :=
  if !hasActiveTurn p then
    some (rejectCommand p command observedAt "No active turn is available." none)
  else none

def applyTerminalTurn (turn : TurnProjection) (lastFact : Fact)
    (failure : Option Failure) : Projection :=
  { p with turn := some turn, checkpoint := turn.checkpoint, lastFact := some lastFact, failure }

namespace ObservedProviderFact

def base : ObservedProviderFact → FactBase
  | .providerDelta base _ _ | .turnCompleted base _ _ | .turnCancelled base _ _
  | .turnFailed base _ _ => base

def observedAt : ObservedProviderFact → String
  | .providerDelta _ _ observedAt => observedAt
  | .turnCompleted _ completedAt _ => completedAt
  | .turnCancelled _ cancelledAt _ => cancelledAt
  | .turnFailed _ failedAt _ => failedAt

def applyTo (t : TurnProjection) : ObservedProviderFact → TurnProjection
  | .providerDelta base delta _ =>
    { t with
      output := t.output ++ delta, sequence := base.sequence, checkpoint := base.checkpoint }
  | .turnCompleted base completedAt output =>
    { t with
      status := .completed
      output
      sequence := base.sequence
      checkpoint := base.checkpoint
      completedAt := some completedAt
      cancelledAt := none
      failedAt := none
      cancelReason := none
      failure := none }
  | .turnCancelled base cancelledAt reason =>
    { t with
      status := .cancelled
      sequence := base.sequence
      checkpoint := base.checkpoint
      completedAt := none
      cancelledAt := some cancelledAt
      failedAt := none
      cancelReason := reason
      failure := none }
  | .turnFailed base failedAt failure =>
    { t with
      status := .failed
      sequence := base.sequence
      checkpoint := base.checkpoint
      completedAt := none
      cancelledAt := none
      failedAt := some failedAt
      cancelReason := none
      failure := some failure }

def leaves : ObservedProviderFact → Option Failure
  | .providerDelta _ _ _ | .turnCompleted _ _ _ | .turnCancelled _ _ _ => none
  | .turnFailed _ _ failure => some failure

end ObservedProviderFact

/-- The snapshot after a fact that is accepted: a delta sets the fields itself and a terminal
fact goes through `applyTerminalTurn`. -/
def applyFact (session : SessionProjection) (provider : ProviderProjection)
    (turn : TurnProjection) (fact : ObservedProviderFact) : Projection :=
  let lastFact : Fact := .observed session.id provider.id fact
  match fact with
  | .providerDelta base _ _ =>
    { clearFailure p with
      turn := some (fact.applyTo turn), checkpoint := base.checkpoint, lastFact := some lastFact }
  | .turnCompleted _ _ _ | .turnCancelled _ _ _ =>
    applyTerminalTurn (clearFailure p) (fact.applyTo turn) lastFact none
  | .turnFailed _ _ failure => applyTerminalTurn p (fact.applyTo turn) lastFact (some failure)

def observeProviderFact (p : Projection) (fact : ObservedProviderFact) : Projection :=
  let reject (message : String) (details : Option Json) : Projection :=
    rejectCommand p .observeProviderFact fact.observedAt message details
  match requireOpenSession p .observeProviderFact fact.observedAt with
  | some rejected => rejected
  | none =>
  match requireAttachedProvider p .observeProviderFact fact.observedAt with
  | some rejected => rejected
  | none =>
  match requireActiveTurn p .observeProviderFact fact.observedAt with
  | some rejected => rejected
  | none =>
  match p.session, p.provider, p.turn with
  | some session, some provider, some turn =>
    if fact.base.turnId ≠ turn.id then
      reject "Observed provider fact does not match the active turn."
        (some (.obj [("activeTurnId", .str turn.id), ("observedTurnId", .str fact.base.turnId)]))
    else if fact.base.sequence ≤ turn.sequence then
      reject "Observed provider fact sequence must advance the active turn."
        (some (.obj [("activeSequence", integer turn.sequence),
          ("observedSequence", integer fact.base.sequence)]))
    else applyFact p session provider turn fact
  | _, _, _ => p

def dispatch : Command → Projection
  | .createSession sessionId openedAt =>
    match p.session with
    | some _ =>
      rejectCommand p .createSession openedAt "Session has already been created." none
    | none =>
      { session := some { id := sessionId, status := .opened, openedAt, closedAt := none }
        provider := none
        turn := none
        checkpoint := none
        lastFact := some (.sessionCreated sessionId openedAt)
        failure := none }
  | .attachProvider providerId attachedAt metadata =>
    match requireOpenSession p .attachProvider attachedAt with
    | some rejected => rejected
    | none =>
    if hasActiveTurn p then
      rejectCommand p .attachProvider attachedAt
        "Cannot replace the provider while a turn is active." none
    else
    match p.session with
    | none => p
    | some session =>
      { clearFailure p with
        provider := some { id := providerId, attachedAt, metadata }
        lastFact := some (.providerAttached session.id providerId attachedAt metadata) }
  | .submitTurn turnId submittedAt input =>
    match requireOpenSession p .submitTurn submittedAt with
    | some rejected => rejected
    | none =>
    match requireAttachedProvider p .submitTurn submittedAt with
    | some rejected => rejected
    | none =>
    if hasActiveTurn p then
      rejectCommand p .submitTurn submittedAt
        "Cannot submit a new turn while another turn is active." none
    else
    match p.session, p.provider with
    | some session, some provider =>
      { clearFailure p with
        turn := some
          { id := turnId
            status := .active
            submittedAt
            output := ""
            sequence := 0
            checkpoint := none
            completedAt := none
            cancelledAt := none
            failedAt := none
            cancelReason := none
            failure := none
            input }
        checkpoint := none
        lastFact := some (.turnSubmitted session.id provider.id turnId submittedAt input) }
    | _, _ => p
  | .cancelTurn cancelledAt reason =>
    match requireOpenSession p .cancelTurn cancelledAt with
    | some rejected => rejected
    | none =>
    match requireAttachedProvider p .cancelTurn cancelledAt with
    | some rejected => rejected
    | none =>
    match requireActiveTurn p .cancelTurn cancelledAt with
    | some rejected => rejected
    | none =>
    match p.session, p.provider, p.turn with
    | some session, some provider, some turn =>
      let base : FactBase :=
        { turnId := turn.id, sequence := turn.sequence, checkpoint := turn.checkpoint }
      applyTerminalTurn (clearFailure p)
        { turn with
          status := .cancelled
          completedAt := none
          cancelledAt := some cancelledAt
          failedAt := none
          cancelReason := reason
          failure := none }
        (.observed session.id provider.id (.turnCancelled base cancelledAt reason)) none
    | _, _, _ => p
  | .closeSession closedAt =>
    match requireOpenSession p .closeSession closedAt with
    | some rejected => rejected
    | none =>
    if hasActiveTurn p then
      rejectCommand p .closeSession closedAt "Cannot close the session while a turn is active."
        none
    else
    match p.session with
    | none => p
    | some session =>
      { clearFailure p with
        session := some { session with status := .closed, closedAt := some closedAt }
        lastFact := some (.sessionClosed session.id closedAt) }
  | .observeProviderFact fact => observeProviderFact p fact

def run (commands : List Command) : Projection := commands.foldl dispatch createInitialProjection

def Fact.rejects : Fact → Bool
  | .commandRejected _ _ _ _ => true
  | .sessionCreated _ _ | .providerAttached _ _ _ _ | .turnSubmitted _ _ _ _ _ | .observed _ _ _
  | .sessionClosed _ _ => false

def Projection.rejected : Bool := p.lastFact.any Fact.rejects

end ActorWeb.SessionActor
