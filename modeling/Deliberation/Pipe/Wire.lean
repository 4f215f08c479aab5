import Deliberation.Dialogue.Completion
import Deliberation.Text.Blank

namespace Deliberation.Pipe

structure WireCall where
  id : String
  kind : String
  name : String
  arguments : String
  deriving DecidableEq, Repr, Inhabited

namespace WireCall

def encode (c : WireCall) : Json :=
  .object [("id", .string c.id), ("type", .string c.kind),
    ("function", .object [("name", .string c.name), ("arguments", .string c.arguments)])]

def decodeFunction : Json.Decoder (String × String) :=
  Json.record ["name", "arguments"] fun m => do
    let name ← m.required "name" .string
    let arguments ← m.orElse "arguments" "" .string
    return (name, arguments)

def decode : Json.Decoder WireCall :=
  Json.record ["id", "type", "function"] fun m => do
    let id ← m.required "id" .string
    let kind ← m.orElse "type" "function" .string
    let (name, arguments) ← m.required "function" decodeFunction
    return ⟨id, kind, name, arguments⟩

def ofCall (c : ToolCall) : WireCall :=
  ⟨c.id, "function", c.name, c.arguments.text⟩

/-- Blank arguments are an empty object; those that are no JSON are passed on as a string. -/
def readArguments (c : WireCall) : Json :=
  let raw := Text.trim c.arguments.toList
  if raw.isEmpty then .object []
  else (Json.read? raw).getD (.string (String.ofList raw))

def toCall (c : WireCall) : ToolCall :=
  ⟨c.id, c.name, c.readArguments⟩

end WireCall

structure WireMessage where
  role : Role
  content : String
  toolCalls : Option (List WireCall)
  answers : Option String
  deriving DecidableEq, Repr, Inhabited

namespace WireMessage

def plain (role : Role) (content : String) : WireMessage :=
  ⟨role, content, none, none⟩

def encode (m : WireMessage) : Json :=
  .object <| [("role", .string m.role.name), ("content", .string m.content)] ++
    Json.present "tool_calls" (m.toolCalls.map fun calls => .array (calls.map WireCall.encode)) ++
    Json.present "tool_call_id" (m.answers.map .string)

def decode : Json.Decoder WireMessage :=
  Json.record ["role", "content", "tool_calls", "tool_call_id"] fun m => do
    let role ← m.required "role" (.name Role.ofName?)
    let content ← m.required "content" .string
    let toolCalls ← m.orElse "tool_calls" none (.optional (.list WireCall.decode))
    let answers ← m.orElse "tool_call_id" none (.optional .string)
    return ⟨role, content, toolCalls, answers⟩

def ofMessage (m : Message) : WireMessage :=
  ⟨m.role, m.content, m.toolCalls.map fun calls => calls.map WireCall.ofCall, m.answers⟩

end WireMessage

structure WireTool where
  kind : String
  name : String
  description : String
  parameters : Json
  deriving Inhabited

namespace WireTool

def encode (t : WireTool) : Json :=
  .object [("type", .string t.kind),
    ("function", .object [("name", .string t.name), ("description", .string t.description),
      ("parameters", t.parameters)])]

def decode : Json.Decoder WireTool :=
  Json.record ["type", "function"] fun m => do
    let kind ← m.required "type" .string
    let d ← m.required "function" ToolDeclaration.decode
    return ⟨kind, d.name, d.description, d.parameters⟩

def ofDeclaration (d : ToolDeclaration) : WireTool :=
  ⟨"function", d.name, d.description, d.parameters⟩

end WireTool

structure PipeRequest where
  name : String
  messages : List WireMessage
  tools : Option (List WireTool)
  deriving Inhabited

namespace PipeRequest

def ofRequest (name : String) (r : Request) : PipeRequest where
  name := name
  messages := r.messages.map WireMessage.ofMessage
  tools := if r.tools.isEmpty then none else some (r.tools.map WireTool.ofDeclaration)

def encode (r : PipeRequest) : Json :=
  .object <| [("name", .string r.name), ("messages", .array (r.messages.map WireMessage.encode)),
    ("stream", .bool false)] ++
    Json.present "tools" (r.tools.map fun tools => .array (tools.map WireTool.encode))

end PipeRequest

structure PipeProposal where
  name : String
  description : Option String := none
  model : Option String := none
  upsert : Option Bool := none
  temperature : Option Float := none
  maxTokens : Option Nat := none
  messages : Option (List WireMessage) := none
  deriving DecidableEq, Repr, Inhabited

def PipeProposal.encode (p : PipeProposal) : Json :=
  .object <| [("name", .string p.name)] ++
    Json.present "description" (p.description.map .string) ++
    Json.present "model" (p.model.map .string) ++
    Json.present "upsert" (p.upsert.map .bool) ++
    Json.present "temperature" (p.temperature.map .real) ++
    Json.present "max_tokens" (p.maxTokens.map .count) ++
    Json.present "messages" (p.messages.map fun ms => .array (ms.map WireMessage.encode))

end Deliberation.Pipe
