import ActorWeb.Json
import ActorWeb.TransportContract

/-! The frames that two transports write on a link, and what each accepts from the other. -/

namespace ActorWeb.TransportFrames

open JsText TransportContract

def RUNTIME_TRANSPORT_PROTOCOL_VERSION : String := "actor-web-runtime/1"

section Printing

mutual

def printedItem : Json → String
  | .null => ""
  | .bool value => if value then "true" else "false"
  | .num value => String.ofList value.digits
  | .str value => value
  | .arr [] => ""
  | .arr (v :: vs) => printedItem v ++ printedItems vs
  | .obj _ => "[object Object]"

def printedItems : List Json → String
  | [] => ""
  | v :: vs => "," ++ printedItem v ++ printedItems vs

end

def printed : Json → String
  | .null => "null"
  | v => printedItem v

def printedField (value : Option Json) : String := value.elim "undefined" printed

end Printing

section Validation

variable {value : Json}

inductive RejectCode
  | missingIdentity
  | incompatibleProtocol
  | malformedFrame
deriving DecidableEq

structure Rejection where
  code : RejectCode
  message : String
deriving DecidableEq

def isRecord : Json → Bool
  | .obj _ => true
  | _ => false

def isNonEmptyString : Option Json → Bool
  | some (.str s) => trim s ≠ ""
  | _ => false

def hasProtocolVersion (value : Option Json) : Bool :=
  value = some (.str RUNTIME_TRANSPORT_PROTOCOL_VERSION)

def hasStringArray : Json → Bool
  | .arr items => items.all fun entry => isNonEmptyString (some entry)
  | _ => false

def isInteger (n : JsonNumber) : Bool :=
  n.digits.contains '+' || !(n.digits.contains '.' || n.digits.contains 'e')

def isNonNegativeInteger : Option Json → Bool
  | some (.num n) => isInteger n && n.digits.head? ≠ some '-'
  | _ => false

def validateRuntimeNodeIdentity (value : Json) : Except Rejection Unit :=
  if !isRecord value then
    .error ⟨.missingIdentity, "Runtime node identity must be an object."⟩
  else if !isNonEmptyString (value.get "nodeAddress") || !isNonEmptyString (value.get "nodeId") ||
      !isNonEmptyString (value.get "incarnation") then
    .error ⟨.missingIdentity,
      "Runtime node identity requires nodeAddress, nodeId, and incarnation."⟩
  else if !hasProtocolVersion (value.get "protocolVersion") then
    .error ⟨.incompatibleProtocol, "Unsupported runtime protocol version: " ++
      printedField (value.get "protocolVersion") ++ "."⟩
  else if (value.get "capabilities").any (!hasStringArray ·) then
    .error ⟨.malformedFrame, "Runtime node identity capabilities must be strings."⟩
  else .ok ()

def validateIdentityField (value : Option Json) : Except Rejection Unit :=
  validateRuntimeNodeIdentity (value.getD .null)

def isSameRuntimeNodeIdentity (left right : Json) : Bool :=
  left.get "nodeId" = right.get "nodeId" && left.get "incarnation" = right.get "incarnation"

/-- The checks that the three kinds of frames share: protocol, parties and destination. -/
def validateParties (mismatch : String) (frame localIdentity : Json) : Except Rejection Unit :=
  if !hasProtocolVersion (frame.get "protocolVersion") then
    .error ⟨.incompatibleProtocol, "Unsupported runtime protocol version: " ++
      printedField (frame.get "protocolVersion") ++ "."⟩
  else do
    validateIdentityField (frame.get "source")
    validateIdentityField (frame.get "destination")
    if !isSameRuntimeNodeIdentity ((frame.get "destination").getD .null) localIdentity then
      .error ⟨.malformedFrame, mismatch⟩
    else .ok ()

variable (frame localIdentity : Json)

def validateRuntimeTransportFrame : Except Rejection Unit :=
  if !isRecord frame then
    .error ⟨.malformedFrame, "Runtime transport frame must be an object."⟩
  else do
    validateParties "Runtime transport frame destination does not match the local node." frame
      localIdentity
    if !isNonNegativeInteger (frame.get "sequence") then
      .error ⟨.malformedFrame, "Runtime transport frame sequence must be a non-negative integer."⟩
    else if !isNonEmptyString (frame.get "messageId") then
      .error ⟨.malformedFrame, "Runtime transport frame requires a messageId."⟩
    else if !isNonEmptyString (frame.get "sentAt") then
      .error ⟨.malformedFrame, "Runtime transport frame requires sentAt."⟩
    else if !((frame.get "message").any isRecord &&
        isNonEmptyString ((frame.get "message").bind fun m => m.get "type")) then
      .error ⟨.malformedFrame, "Runtime transport frame requires an actor message with a type."⟩
    else .ok ()

def isHeartbeatFrame (frame : Json) : Bool :=
  frame.get "type" = some (.str "runtime.transport.ping") ||
    frame.get "type" = some (.str "runtime.transport.pong")

def isAckFrame (frame : Json) : Bool := frame.get "type" = some (.str "runtime.transport.ack")

def validateRuntimeTransportHeartbeatFrame :
    Except Rejection Unit :=
  if !isRecord frame then
    .error ⟨.malformedFrame, "Runtime transport heartbeat frame must be an object."⟩
  else if !isHeartbeatFrame frame then
    .error ⟨.malformedFrame, "Unsupported runtime transport heartbeat type: " ++
      printedField (frame.get "type") ++ "."⟩
  else do
    validateParties "Runtime transport heartbeat destination does not match the local node." frame
      localIdentity
    if !isNonEmptyString (frame.get "sentAt") then
      .error ⟨.malformedFrame, "Runtime transport heartbeat frame requires sentAt."⟩
    else .ok ()

def validateRuntimeTransportAckFrame : Except Rejection Unit :=
  if !isRecord frame then
    .error ⟨.malformedFrame, "Runtime transport ack frame must be an object."⟩
  else if !isAckFrame frame then
    .error ⟨.malformedFrame, "Runtime transport ack frame requires type runtime.transport.ack."⟩
  else do
    validateParties "Runtime transport ack destination does not match the local node." frame
      localIdentity
    if !isNonEmptyString (frame.get "messageId") then
      .error ⟨.malformedFrame, "Runtime transport ack requires a messageId."⟩
    else if !isNonNegativeInteger (frame.get "sequence") then
      .error ⟨.malformedFrame, "Runtime transport ack sequence must be a non-negative integer."⟩
    else if !isNonEmptyString (frame.get "sentAt") then
      .error ⟨.malformedFrame, "Runtime transport ack requires sentAt."⟩
    else .ok ()

end Validation

structure NodeIdentity extends RuntimeNodeIdentity where
  protocolVersion : String
  capabilities : Option (List String)
deriving DecidableEq

def NodeIdentity.json (node : NodeIdentity) : Json :=
  .obj ([("nodeAddress", .str node.nodeAddress), ("nodeId", .str node.nodeId),
    ("incarnation", .str node.incarnation), ("protocolVersion", .str node.protocolVersion)] ++
    (node.capabilities.map fun names => ("capabilities", Json.arr (names.map .str))).toList)

def createRuntimeNodeIdentity (node : RuntimeNodeIdentity) : NodeIdentity :=
  ⟨node, RUNTIME_TRANSPORT_PROTOCOL_VERSION, none⟩

structure ActorMessage where
  fields : List (String × Json)
  type : String
  typed : (Json.obj fields).get "type" = some (.str type)

section Frames

variable (source destination : NodeIdentity) (sentAt : NonEmptyString)

def createRuntimeTransportFrame (messageId : String) (sequence : Nat) (message : ActorMessage) :
    Json :=
  .obj [("protocolVersion", .str RUNTIME_TRANSPORT_PROTOCOL_VERSION), ("source", source.json),
    ("destination", destination.json), ("messageId", .str messageId),
    ("sequence", .num (.ofNat sequence)), ("sentAt", .str sentAt.value),
    ("message", .obj message.fields)]

def createRuntimeTransportAckFrame (messageId sequence : Json) : Json :=
  .obj [("type", .str "runtime.transport.ack"),
    ("protocolVersion", .str RUNTIME_TRANSPORT_PROTOCOL_VERSION), ("source", source.json),
    ("destination", destination.json), ("messageId", messageId), ("sequence", sequence),
    ("sentAt", .str sentAt.value)]

def createHeartbeat (type : String) : Json :=
  .obj [("type", .str type), ("protocolVersion", .str RUNTIME_TRANSPORT_PROTOCOL_VERSION),
    ("source", source.json), ("destination", destination.json), ("sentAt", .str sentAt.value)]

def createRuntimeTransportHeartbeatPing : Json :=
  createHeartbeat source destination sentAt "runtime.transport.ping"

def createRuntimeTransportHeartbeatPong : Json :=
  createHeartbeat source destination sentAt "runtime.transport.pong"

end Frames

/-- The text that `send` hands to the link of a registered peer, or the error it throws. -/
def send (identity peer : NodeIdentity) (maxFrameBytes sequence : Nat) (sentAt : NonEmptyString)
    (message : ActorMessage) : Except String String :=
  let messageId := createRuntimeTransportMessageId identity.toRuntimeNodeIdentity
    peer.toRuntimeNodeIdentity (sequence + 1)
  let text := Json.stringify 0
    (createRuntimeTransportFrame identity peer sentAt messageId (sequence + 1) message)
  if maxFrameBytes < text.utf8ByteSize then
    .error ("Runtime transport frame is " ++ toString text.utf8ByteSize ++
      " bytes, exceeding the configured maxFrameBytes of " ++ toString maxFrameBytes ++
      ". Externalize large blobs and send artifact references instead.")
  else .ok text

/-- What becomes of a payload: it is taken, or dropped and its peer disconnected. -/
inductive Reception
  | frame
  | ack
  | heartbeat
  | dropped (rejection : Rejection)
deriving DecidableEq

def isFrom (peer : NodeIdentity) (frame : Json) : Bool :=
  ((frame.get "source").bind fun s => s.get "nodeAddress") = some (.str peer.nodeAddress) &&
    ((frame.get "source").bind fun s => s.get "nodeId") = some (.str peer.nodeId) &&
    ((frame.get "source").bind fun s => s.get "incarnation") = some (.str peer.incarnation)

def received (peer : NodeIdentity) (frame : Json) (validation : Except Rejection Unit)
    (mismatch : String) (kind : Reception) : Reception :=
  match validation with
  | .error rejection => .dropped rejection
  | .ok _ => if !isFrom peer frame then .dropped ⟨.malformedFrame, mismatch⟩ else kind

def handleInboundPayload (identity peer : NodeIdentity) (payload : Json) : Reception :=
  if isHeartbeatFrame payload then
    received peer payload (validateRuntimeTransportHeartbeatFrame payload identity.json)
      "Heartbeat source mismatch." .heartbeat
  else if isAckFrame payload then
    received peer payload (validateRuntimeTransportAckFrame payload identity.json)
      "Runtime ack source mismatch." .ack
  else
    received peer payload (validateRuntimeTransportFrame payload identity.json)
      "Runtime frame source mismatch." .frame

def sendAck (identity peer : NodeIdentity) (sentAt : NonEmptyString) (payload : Json) : String :=
  Json.stringify 0 (createRuntimeTransportAckFrame identity peer sentAt
    ((payload.get "messageId").getD .null) ((payload.get "sequence").getD .null))

end ActorWeb.TransportFrames
