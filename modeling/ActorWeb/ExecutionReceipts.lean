import ActorWeb.JsText
import ActorWeb.Json

/-! Receipts and decisions of the admission of agent commands. -/

namespace ActorWeb.AgentExecution

/-- A value that comes from foreign code: JSON, or another value with its text, which
`structuredClone` may refuse. -/
inductive JsValue
  | json (value : Json)
  | foreign (text : String) (cloneable : Bool)
deriving DecidableEq

namespace JsValue

def jsonTruthy : Json → Bool
  | .null | .bool false => false
  | .num n => n.digits ≠ ['0']
  | .str s => s ≠ ""
  | _ => true

def truthy : JsValue → Bool
  | .json v => jsonTruthy v
  | .foreign _ _ => true

mutual

def jsonText : Json → String
  | .null => "null"
  | .bool b => if b then "true" else "false"
  | .num n => String.ofList n.digits
  | .str s => s
  | .arr items => itemsText items
  | .obj _ => "[object Object]"

def itemsText : List Json → String
  | [] => ""
  | [v] => itemText v
  | v :: w :: rest => itemText v ++ "," ++ itemsText (w :: rest)

def itemText : Json → String
  | .null => ""
  | v => jsonText v

end

def text : JsValue → String
  | .json v => jsonText v
  | .foreign text _ => text

end JsValue

inductive AdmissionStage
  | schemaAdmitted | domainAccepted | executionAuthorized
deriving DecidableEq

inductive RecheckField
  | command | payload | principal | approval | revision | idempotency | policy
deriving DecidableEq

inductive AdmissionOutcome
  | admitted | rejected
deriving DecidableEq

structure ReceiptBase where
  (receiptId recordId traceId actorId sessionId commandId : String)
  (intentId principalId revision correlationId idempotencyKey : Option Json)
  sequence : Nat
  occurredAt : String
deriving DecidableEq

structure AdmissionReceipt where
  base : ReceiptBase
  admissionStage : AdmissionStage
  outcome : AdmissionOutcome
  rechecked : List RecheckField
deriving DecidableEq

structure AuthorizationReceipt where
  base : ReceiptBase
  principal : Json
  policy : String
deriving DecidableEq

structure OutcomeFact where
  code : String
  detail : Option JsValue
deriving DecidableEq

structure RejectionReceipt where
  base : ReceiptBase
  admissionStage : AdmissionStage
  reason : OutcomeFact
deriving DecidableEq

structure ResultReceipt where
  base : ReceiptBase
  output : Json
deriving DecidableEq

inductive Receipt
  | admission (receipt : AdmissionReceipt)
  | authorization (receipt : AuthorizationReceipt)
  | rejection (receipt : RejectionReceipt)
  | result (receipt : ResultReceipt)
deriving DecidableEq

/-- What an admission ends with. Only an authorized command can hold an idempotency claim. -/
inductive Verdict
  | authorized (receipt : AuthorizationReceipt) (claimed : Bool)
  | rejected (receipt : RejectionReceipt)
deriving DecidableEq

structure AdmissionDecision where
  principal : Json
  commandId : String
  admissionReceipt : AdmissionReceipt
  verdict : Verdict
deriving DecidableEq

inductive CommandKind
  | send | ask
deriving DecidableEq

structure ExecutionTrace where
  (traceId actorId sessionId commandId : String)
  (principalId correlationId : Option Json)
  receipts : List Receipt
deriving DecidableEq

end ActorWeb.AgentExecution
