import Deliberation.Dialogue.Validation
import Deliberation.Reply.Object

namespace Deliberation.Reply

structure Grade where
  passed : Bool
  score : Option Float
  feedback : Option String
  deriving DecidableEq, Repr

def Grade.decode : Json.Decoder Grade :=
  Json.record ["passed", "score", "feedback"] fun m => do
    let passed ← m.orElse "passed" false .bool
    let score ← m.orElse "score" none (.optional .float)
    let feedback ← m.orElse "feedback" none (.optional .string)
    return ⟨passed, score, feedback⟩

def Grade.validation (g : Grade) : Validation :=
  let v : Validation := ⟨g.passed, none, g.feedback.filter fun f => !Text.blankString f⟩
  match g.score with
  | some x => if x.isFinite then v.withScore x else v
  | none => v

def grade? (s : List Char) : Option Grade :=
  (object? s).bind (Json.decode Grade.decode)

def grade (reply : String) : Validation :=
  match grade? reply.toList with
  | some g => g.validation
  | none => .fail "Validator response was not valid JSON"

def score? (reply : String) : Option Float :=
  (((object? reply.toList).bind (Json.field? "score")).bind Json.float?).bind fun x =>
    if x.isFinite then some (Number.clamp x) else none

end Deliberation.Reply
