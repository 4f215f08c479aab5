import Deliberation.Json.Record
import Deliberation.Text.Blank

namespace Deliberation

structure Task where
  description : String
  constraints : List String
  toolNames : List String
  deriving DecidableEq, Repr, Inhabited

namespace Task

def ofDescription (s : String) : Task :=
  ⟨s, [], []⟩

def addConstraint (t : Task) (c : String) : Task :=
  ⟨t.description, t.constraints ++ [c], t.toolNames⟩

def addTool (t : Task) (name : String) : Task :=
  ⟨t.description, t.constraints, t.toolNames ++ [name]⟩

def allows (t : Task) (name : String) : Bool :=
  t.toolNames.isEmpty || t.toolNames.contains name

theorem allows_iff {t : Task} {name : String} :
    t.allows name = true ↔ t.toolNames = [] ∨ name ∈ t.toolNames := by
  simp [allows]

def render (t : Task) : String :=
  if t.constraints.isEmpty then t.description
  else t.description ++ "\n\nConstraints:\n" ++ "\n".intercalate (t.constraints.map ("- " ++ ·))

def blank (t : Task) : Bool :=
  Text.blankString t.description

def encode (t : Task) : Json :=
  .object [("description", .string t.description), ("constraints", .strings t.constraints),
    ("availableToolNames", .strings t.toolNames)]

def decode : Json.Decoder Task :=
  Json.record ["description", "constraints", "availableToolNames"] fun m => do
    let description ← m.required "description" .string
    let constraints ← m.orElse "constraints" [] (.list .string)
    let toolNames ← m.orElse "availableToolNames" [] (.list .string)
    return ⟨description, constraints, toolNames⟩

end Task

end Deliberation
