import Deliberation.Json.Record
import Deliberation.Text.Preview

namespace Deliberation.Reflection

structure Entry where
  attemptNumber : Nat
  outcome : String
  feedback : Option String
  critique : Option String
  deriving DecidableEq, Repr, Inhabited

namespace Entry

def render (e : Entry) : String :=
  "Attempt " ++ Nat.repr e.attemptNumber ++ ":\n" ++ Text.preview e.outcome 1000 ++
    (e.feedback.map ("\nValidator feedback: " ++ ·)).getD "" ++
    (e.critique.map ("\nCritique: " ++ ·)).getD ""

def encode (e : Entry) : Json :=
  .object <| [("attemptNumber", .count e.attemptNumber), ("outcome", .string e.outcome)] ++
    Json.present "feedback" (e.feedback.map .string) ++
    Json.present "critique" (e.critique.map .string)

def decode : Json.Decoder Entry :=
  Json.record ["attemptNumber", "outcome", "feedback", "critique"] fun m => do
    let attemptNumber ← m.required "attemptNumber" (.count Number.wordBound)
    let outcome ← m.required "outcome" .string
    let feedback ← m.optional "feedback" .string
    let critique ← m.optional "critique" .string
    return ⟨attemptNumber, outcome, feedback, critique⟩

end Entry

abbrev Memory := List Entry

def Memory.render (m : Memory) : String :=
  "\n\n".intercalate (m.map Entry.render)

end Deliberation.Reflection
