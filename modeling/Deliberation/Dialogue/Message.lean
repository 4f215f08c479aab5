import Deliberation.Dialogue.Tool

namespace Deliberation

inductive Role where
  | system
  | user
  | assistant
  | tool
  deriving DecidableEq, Repr, Inhabited

namespace Role

def name : Role → String
  | system => "system"
  | user => "user"
  | assistant => "assistant"
  | tool => "tool"

def ofName? (s : String) : Option Role :=
  if s = "system" then some system
  else if s = "user" then some user
  else if s = "assistant" then some assistant
  else if s = "tool" then some tool
  else none

theorem ofName?_name (r : Role) : ofName? r.name = some r := by
  cases r <;> decide

end Role

structure Message where
  role : Role
  content : String
  toolCalls : Option (List ToolCall)
  answers : Option String
  deriving Inhabited

namespace Message

def system (content : String) : Message :=
  ⟨.system, content, none, none⟩

def user (content : String) : Message :=
  ⟨.user, content, none, none⟩

def assistant (content : String) : Message :=
  ⟨.assistant, content, none, none⟩

def requesting (content : String) (calls : List ToolCall) : Message :=
  ⟨.assistant, content, if calls.isEmpty then none else some calls, none⟩

def tool (callId content : String) : Message :=
  ⟨.tool, content, none, some callId⟩

def encode (m : Message) : Json :=
  .object <| [("role", .string m.role.name), ("content", .string m.content)] ++
    Json.present "tool_calls" (m.toolCalls.map fun calls => .array (calls.map ToolCall.encode)) ++
    Json.present "tool_call_id" (m.answers.map .string)

def decode : Json.Decoder Message :=
  Json.record ["role", "content", "tool_calls", "tool_call_id"] fun m => do
    let role ← m.required "role" (.name Role.ofName?)
    let content ← m.required "content" .string
    let toolCalls ← m.optional "tool_calls" (.list ToolCall.decode)
    let answers ← m.optional "tool_call_id" .string
    return ⟨role, content, toolCalls, answers⟩

end Message

end Deliberation
