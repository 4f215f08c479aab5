import Deliberation.Dialogue.Tool
import Deliberation.Outcome.Failure

namespace Deliberation

structure Tool (β : Type) where
  declaration : ToolDeclaration
  handle : β

structure Registry (β : Type) where
  tools : List (Tool β)

namespace Registry

variable {β : Type}

def empty : Registry β :=
  ⟨[]⟩

def insert (t : Tool β) : List (Tool β) → List (Tool β)
  | [] => [t]
  | u :: r =>
    if t.declaration.name < u.declaration.name then t :: u :: r
    else if t.declaration.name = u.declaration.name then t :: r
    else u :: insert t r

def register (r : Registry β) (t : Tool β) : Registry β :=
  ⟨insert t r.tools⟩

def get? (r : Registry β) (name : String) : Option (Tool β) :=
  r.tools.find? fun t => t.declaration.name == name

def declarations (r : Registry β) : List ToolDeclaration :=
  r.tools.map Tool.declaration

def names (r : Registry β) : List String :=
  r.declarations.map ToolDeclaration.name

def size (r : Registry β) : Nat :=
  r.tools.length

def unknown (name : String) : Failure :=
  .tool name "no such tool"

def outcome : Except Failure String → ToolOutcome
  | .ok output => .ok output
  | .error e => .failed e.message

def execute {m : Type → Type} [Functor m] [Pure m] (r : Registry β)
    (invoke : Tool β → Json → m (Except Failure String)) (name : String) (arguments : Json) :
    m ToolOutcome :=
  match r.get? name with
  | some t => outcome <$> invoke t arguments
  | none => pure (.failed (unknown name).message)

theorem get?_insert (t : Tool β) (tools : List (Tool β)) (name : String) :
    (insert t tools).find? (fun u => u.declaration.name == name) =
      if t.declaration.name = name then some t
      else tools.find? fun u => u.declaration.name == name := by
  induction tools with
  | nil => by_cases h : t.declaration.name = name <;> simp [insert, h]
  | cons u r ih =>
    rw [insert]
    by_cases h : t.declaration.name = name
    · subst h
      split
      · simp
      · split
        · simp
        · next hn => simp [ih, Ne.symm hn]
    · split
      · simp [List.find?_cons, h]
      · split
        · next hu => simp [h, ← hu]
        · simp [ih, List.find?_cons, h]

theorem get?_register (r : Registry β) (t : Tool β) (name : String) :
    (r.register t).get? name = if t.declaration.name = name then some t else r.get? name :=
  get?_insert t r.tools name

end Registry

end Deliberation
