import Deliberation.Debate.Argument
import Deliberation.Number.Fixed
import Deliberation.Number.UnitInterval
import Deliberation.Reply.Object

namespace Deliberation.Debate

structure Verdict where
  selectedApproach : String
  synthesizedInsights : String
  confidence : Float
  deriving DecidableEq, Repr, Inhabited

namespace Verdict

def encode (v : Verdict) : Json :=
  .object [("selectedApproach", .string v.selectedApproach),
    ("synthesizedInsights", .string v.synthesizedInsights), ("confidence", .real v.confidence)]

def decode : Json.Decoder Verdict :=
  Json.record ["selectedApproach", "synthesizedInsights", "confidence"] fun m => do
    let selectedApproach ← m.required "selectedApproach" .string
    let synthesizedInsights ← m.required "synthesizedInsights" .string
    let confidence ← m.required "confidence" .float
    return ⟨selectedApproach, synthesizedInsights, confidence⟩

def ofObject (v : Json) : Verdict where
  selectedApproach := ((v.field? "selectedApproach").bind Json.string?).getD "No approach selected"
  synthesizedInsights :=
    ((v.field? "synthesizedInsights").bind Json.string?).getD "No insights available"
  confidence := (((v.field? "confidence").bind Json.float?).map Number.clamp).getD 0.5

def parse? (reply : String) : Option Verdict :=
  ((Reply.findObject? reply.toList).bind Reply.readObject?).map ofObject

def describe (v : Verdict) : String :=
  "Selected approach: " ++ v.selectedApproach ++ "\nSynthesized insights: " ++
    v.synthesizedInsights ++ "\nConfidence: " ++ Number.twoPlaces v.confidence

end Verdict

def lastRound (arguments : List Argument) : List Argument :=
  let last := (arguments.map Argument.round).max?
  (arguments.filter fun a => some a.round == last).mergeSort fun a b => a.debaterId ≤ b.debaterId

def insight (a : Argument) : String :=
  "[" ++ a.perspective ++ "]: " ++ Text.truncate a.argument 150

def fallback (arguments : List Argument) : Verdict :=
  match lastRound arguments with
  | [] => ⟨"Direct implementation approach", "No insights available from debate", 0.5⟩
  | a :: r => ⟨Text.truncate a.argument 300, "\n".intercalate ((a :: r).map insight), 0.5⟩

end Deliberation.Debate
