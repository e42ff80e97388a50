import ActorWeb.SessionCheckpoint

namespace ActorWeb.AgentLoop

open SessionCheckpoint

inductive MessageRole
  | system | user | assistant | tool
deriving DecidableEq

structure ToolCall where
  (id name : String)
  input : Json
deriving DecidableEq

structure LlmMessage where
  role : MessageRole
  content : String
  toolCallId : Option String := none
  toolName : Option String := none
  toolCalls : Option (List ToolCall) := none
deriving DecidableEq

structure AgentError where
  (code message : String)
deriving DecidableEq

structure AgentContext where
  system : Option String
  history : List LlmMessage
  steps : Nat
  pendingToolCalls : List ToolCall
  lastError : Option AgentError
deriving DecidableEq

section Encode

def MessageRole.text : MessageRole → String
  | .system => "system"
  | .user => "user"
  | .assistant => "assistant"
  | .tool => "tool"

def ToolCall.toJson (c : ToolCall) : Json :=
  .obj [("id", .str c.id), ("name", .str c.name), ("input", c.input)]

def LlmMessage.extras (m : LlmMessage) : List (String × Json) :=
  optional "toolCallId" (m.toolCallId.map .str) ++ optional "toolName" (m.toolName.map .str) ++
    optional "toolCalls" (m.toolCalls.map fun calls => .arr (calls.map ToolCall.toJson))

def LlmMessage.toJson (m : LlmMessage) : Json :=
  .obj ([("role", .str m.role.text), ("content", .str m.content)] ++ m.extras)

def AgentError.toJson (e : AgentError) : Json :=
  .obj [("code", .str e.code), ("message", .str e.message)]

def createCheckpointState (c : AgentContext) : Json :=
  .obj (optional "system" (c.system.map .str) ++
    [("history", .arr (c.history.map LlmMessage.toJson)), ("steps", natural c.steps),
      ("pendingToolCalls", .arr (c.pendingToolCalls.map ToolCall.toJson)),
      ("lastError", (c.lastError.map AgentError.toJson).getD .null)])

end Encode

section Read

def asList {α : Type} (read : Json → Option α) : Json → Option (List α)
  | .arr items => items.mapM read
  | _ => none

variable (v : Json)

def asRole : Option MessageRole :=
  [MessageRole.system, .user, .assistant, .tool].find? fun r => v = .str r.text

def readToolCall : Option ToolCall := do
  let id ← field v "id" asString
  let name ← field v "name" asString
  let input ← field v "input" some
  some { id, name, input }

def readMessage : Option LlmMessage := do
  let role ← field v "role" asRole
  let content ← field v "content" asString
  let toolCallId ← optionalField v "toolCallId" asString
  let toolName ← optionalField v "toolName" asString
  let toolCalls ← optionalField v "toolCalls" (asList readToolCall)
  some { role, content, toolCallId, toolName, toolCalls }

def readError : Option AgentError := do
  let code ← field v "code" asString
  let message ← field v "message" asString
  some { code, message }

/-- `isCheckpointStateCandidate`, and the context that `rehydrateActorAgentLoopContext` makes. -/
def readCheckpointState : Option AgentContext := do
  let system ← optionalField v "system" asString
  let history ← field v "history" (asList readMessage)
  let steps ← field v "steps" asNat
  let pendingToolCalls ← field v "pendingToolCalls" (asList readToolCall)
  let lastError ← field v "lastError" (orNull readError)
  some { system, history, steps, pendingToolCalls, lastError }

theorem asList_map {α : Type} {read : Json → Option α} {write : α → Json}
    (h : ∀ a, read (write a) = some a) (items : List α) :
    asList read (.arr (items.map write)) = some items := by
  rw [asList]
  induction items with
  | nil => rfl
  | cons a items ih => simp [h, ih]

theorem asRole_text (r : MessageRole) : asRole (.str r.text) = some r := by
  cases r <;> decide +kernel

theorem readToolCall_toJson (c : ToolCall) : readToolCall c.toJson = some c := by
  simp [readToolCall, ToolCall.toJson, field, Json.get, asString]

theorem readMessage_toJson (m : LlmMessage) : readMessage m.toJson = some m := by
  obtain ⟨role, content, toolCallId, toolName, toolCalls⟩ := m
  have hcalls := asList_map readToolCall_toJson
  cases toolCallId <;> cases toolName <;> cases toolCalls <;>
    simp [readMessage, LlmMessage.toJson, LlmMessage.extras, SessionCheckpoint.optional, field,
      optionalField, Json.get, asString, asRole_text, hcalls]

theorem readError_toJson (e : AgentError) : readError e.toJson = some e := by
  simp [readError, AgentError.toJson, field, Json.get, asString]

theorem orNull_error (error : Option AgentError) :
    orNull readError ((error.map AgentError.toJson).getD .null) = some error := by
  cases error with
  | none => rfl
  | some e =>
    rw [Option.map_some, Option.getD_some, orNull, if_neg (by simp [AgentError.toJson]),
      readError_toJson, Option.map_some]

theorem readCheckpointState_create (c : AgentContext) :
    readCheckpointState (createCheckpointState c) = some c := by
  obtain ⟨system, history, steps, pendingToolCalls, lastError⟩ := c
  have hhistory := asList_map readMessage_toJson
  have hcalls := asList_map readToolCall_toJson
  cases system <;>
    simp [readCheckpointState, createCheckpointState, SessionCheckpoint.optional, field,
      optionalField, Json.get, asString, asNat_natural, hhistory, hcalls, orNull_error]

end Read

end ActorWeb.AgentLoop
