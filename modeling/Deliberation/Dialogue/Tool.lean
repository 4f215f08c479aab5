import Deliberation.Json.Record

namespace Deliberation

structure ToolCall where
  id : String
  name : String
  arguments : Json
  deriving Inhabited

namespace ToolCall

def encode (c : ToolCall) : Json :=
  .object [("id", .string c.id), ("name", .string c.name), ("arguments", c.arguments)]

def decode : Json.Decoder ToolCall :=
  Json.record ["id", "name", "arguments"] fun m => do
    let id ← m.required "id" .string
    let name ← m.required "name" .string
    let arguments ← m.orElse "arguments" .null .value
    return ⟨id, name, arguments⟩

end ToolCall

structure ToolDeclaration where
  name : String
  description : String
  parameters : Json
  deriving Inhabited

namespace ToolDeclaration

def encode (d : ToolDeclaration) : Json :=
  .object [("name", .string d.name), ("description", .string d.description),
    ("parameters", d.parameters)]

def decode : Json.Decoder ToolDeclaration :=
  Json.record ["name", "description", "parameters"] fun m => do
    let name ← m.required "name" .string
    let description ← m.required "description" .string
    let parameters ← m.required "parameters" .value
    return ⟨name, description, parameters⟩

end ToolDeclaration

structure ToolOutcome where
  success : Bool
  output : String
  error : Option String
  deriving DecidableEq, Repr, Inhabited

namespace ToolOutcome

def ok (output : String) : ToolOutcome :=
  ⟨true, output, none⟩

def failed (error : String) : ToolOutcome :=
  ⟨false, "", some error⟩

def observation (o : ToolOutcome) : String :=
  if o.success then o.output else "Error: " ++ o.error.getD "tool execution failed"

def encode (o : ToolOutcome) : Json :=
  .object <| [("success", .bool o.success), ("output", .string o.output)] ++
    Json.present "error" (o.error.map .string)

def decode : Json.Decoder ToolOutcome :=
  Json.record ["success", "output", "error"] fun m => do
    let success ← m.required "success" .bool
    let output ← m.required "output" .string
    let error ← m.optional "error" .string
    return ⟨success, output, error⟩

end ToolOutcome

end Deliberation
