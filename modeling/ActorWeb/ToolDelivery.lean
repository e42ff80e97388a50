import ActorWeb.JsNumber
import ActorWeb.JsText
import ActorWeb.Json
import Mathlib.Data.Rat.Floor

namespace ActorWeb

def truncate (q : ℚ) : Int := if q < 0 then ⌈q⌉ else ⌊q⌋

namespace ToolDelivery

open JsText

section Values

structure IdentityInput where
  (actorId nodeAddress toolName : String)

inductive FailureCode
  | invalidRequest | ackTimeout | duplicateActivation | acknowledgeFailed

inductive FailureDetails
  | numbers (attempt ackTimeoutMs : JsNumber)
  | toolName (toolName : String)
  | timeout (activationId : String) (attempt maxAttempts : Int) (toolName : String)
  | mismatch (activationId expectedIdempotencyKey receivedIdempotencyKey expectedToolName
      receivedToolName : String)

structure Failure where
  code : FailureCode
  message : String
  retryable : Bool
  details : FailureDetails

inductive ParseResult
  | valid (value : String)
  | invalid (field value : String)

def hasNonEmptyString (s : String) : Bool := trim s ≠ ""

variable (input : IdentityInput)

def validateIdentityInput (value : String) : ParseResult :=
  if !hasNonEmptyString input.actorId then .invalid "actorId" input.actorId
  else if !hasNonEmptyString input.nodeAddress then .invalid "nodeAddress" input.nodeAddress
  else if !hasNonEmptyString input.toolName then .invalid "toolName" input.toolName
  else .valid value

def identityComponents : List String :=
  ["node=" ++ encodeURIComponent input.nodeAddress, "actor=" ++ encodeURIComponent input.actorId,
    "tool=" ++ encodeURIComponent input.toolName]

def createIdempotencyKey (requestId : String) : ParseResult :=
  if !hasNonEmptyString requestId then .invalid "requestId" requestId
  else validateIdentityInput input (":".intercalate (["actor-tool-delivery", "key"] ++
    identityComponents input ++ ["request=" ++ encodeURIComponent requestId]))

def createActivationId (idempotencyKey : String) : ParseResult :=
  if !hasNonEmptyString idempotencyKey then .invalid "idempotencyKey" idempotencyKey
  else validateIdentityInput input (":".intercalate (["actor-tool-delivery", "activation"] ++
    identityComponents input ++ ["key=" ++ idempotencyKey]))

end Values

section Attempts

/-- What a claim, an attempt and an acknowledgement say of the activation. -/
structure Activation where
  (activationId idempotencyKey toolName : String)
deriving DecidableEq

structure Attempt where
  activation : Activation
  (attempt ackTimeoutMs : Int)

def positive (n : JsNumber) : Option ℚ := n.finite?.filter fun q => 0 < q

def createAttempt (activation : Activation) (attempt ackTimeoutMs : JsNumber) :
    Except Failure Attempt :=
  match positive attempt, positive ackTimeoutMs with
  | some a, some t =>
    if !hasNonEmptyString activation.toolName then
      .error
        { code := .invalidRequest
          message := "Actor tool delivery toolName must be a non-empty string."
          retryable := false
          details := .toolName activation.toolName }
    else .ok { activation, attempt := truncate a, ackTimeoutMs := truncate t }
  | _, _ =>
    .error
      { code := .invalidRequest
        message :=
          "Actor tool delivery attempt and ackTimeoutMs must be positive finite numbers."
        retryable := false
        details := .numbers attempt ackTimeoutMs }

structure ReemitCommand where
  activation : Activation
  attempt : Int

inductive Decision
  | wait (activationId : String) (remainingMs : Int)
  | acked (activationId : String)
  | reemit (command : ReemitCommand)
  | failed (failure : Failure)

def elapsedOf (elapsedMs : JsNumber) : Int := max 0 ((elapsedMs.finite?.map truncate).getD 0)

def attemptLimit (maxAttempts : JsNumber) : Int := ((positive maxAttempts).map truncate).getD 1

def evaluateAckTimeout (attempt : Attempt) (elapsedMs : JsNumber) (acknowledged : Bool)
    (maxAttempts : JsNumber) : Decision :=
  if acknowledged then .acked attempt.activation.activationId
  else if 0 < max 0 (attempt.ackTimeoutMs - elapsedOf elapsedMs) then
    .wait attempt.activation.activationId (max 0 (attempt.ackTimeoutMs - elapsedOf elapsedMs))
  else if attemptLimit maxAttempts ≤ attempt.attempt then
    .failed
      { code := .ackTimeout
        message := "Actor tool delivery activation was not acknowledged before max attempts."
        retryable := false
        details := .timeout attempt.activation.activationId attempt.attempt
          (attemptLimit maxAttempts) attempt.activation.toolName }
  else .reemit { activation := attempt.activation, attempt := attempt.attempt + 1 }

end Attempts

section Provider

structure Ack where
  activation : Activation
  output : Option Json

structure Entry where
  input : Activation
  ack : Option Ack

inductive Status
  | pending | acked

abbrev Provider := OrderedMap String Entry

inductive Call
  | claim (input : Activation)
  | acknowledge (ack : Ack)

inductive Result
  | claimed (input : Activation)
  | duplicate (input : Activation) (status : Status) (ack : Option Ack)
  | acked (ack : Ack)
  | missing (activationId : String)
  | error (failure : Failure)

def Entry.status (e : Entry) : Status := if e.ack.isSome then .acked else .pending

variable (p : Provider)

def claim (input : Activation) : Provider × Result :=
  match p.get input.activationId with
  | some e => (p, .duplicate e.input e.status e.ack)
  | none => (p.set input.activationId { input, ack := none }, .claimed input)

def Entry.matches (e : Entry) (a : Ack) : Bool :=
  e.input.idempotencyKey = a.activation.idempotencyKey && e.input.toolName = a.activation.toolName

def acknowledge (a : Ack) : Provider × Result :=
  match p.get a.activation.activationId with
  | none => (p, .missing a.activation.activationId)
  | some e =>
    if !e.matches a then
      (p, .error
        { code := .acknowledgeFailed
          message := "Actor tool delivery ack did not match the claimed activation facts."
          retryable := false
          details := .mismatch e.input.activationId e.input.idempotencyKey
            a.activation.idempotencyKey e.input.toolName a.activation.toolName })
    else
      match e.ack with
      | some kept => (p, .acked kept)
      | none => (p.set a.activation.activationId { e with ack := some a }, .acked a)

def Provider.call : Call → Provider × Result
  | .claim input => claim p input
  | .acknowledge a => acknowledge p a

def Provider.after (calls : List Call) : Provider :=
  calls.foldl (fun p c => (p.call c).1) OrderedMap.empty

end Provider

end ToolDelivery

end ActorWeb
