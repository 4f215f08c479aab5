import Deliberation.Json.Record
import Deliberation.Number.UnitInterval

namespace Deliberation

structure Validation where
  passed : Bool
  score : Option Float
  feedback : Option String
  deriving DecidableEq, Repr, Inhabited

namespace Validation

def pass : Validation :=
  ⟨true, none, none⟩

def fail (feedback : String) : Validation :=
  ⟨false, none, some feedback⟩

def withScore (v : Validation) (x : Float) : Validation :=
  { v with score := some (Number.clamp x) }

def encode (v : Validation) : Json :=
  .object <| [("passed", .bool v.passed)] ++
    Json.present "graded_score" (v.score.map .real) ++
    Json.present "feedback" (v.feedback.map .string)

def decode : Json.Decoder Validation :=
  Json.record ["passed", "graded_score", "feedback"] fun m => do
    let passed ← m.required "passed" .bool
    let score ← m.optional "graded_score" .float
    let feedback ← m.optional "feedback" .string
    return ⟨passed, score, feedback⟩

end Validation

end Deliberation
