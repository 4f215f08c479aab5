import Deliberation.Number.Fixed
import Deliberation.Task.Basic
import Deliberation.Task.Options
import Deliberation.Text.Search

namespace Deliberation.Selection

def debateWords : List String :=
  ["debate", "trade-off", "tradeoff", "pros and cons", "controversial", "perspectives", "versus"]

def revisionWords : List String :=
  ["refine", "revise", "improve", "critique", "correct", "until it passes"]

def explorationWords : List String :=
  ["explore", "alternatives", "options", "brainstorm", "design", "plan"]

structure Recommendation where
  strategy : Strategy
  rationale : String
  complexity : Float
  deriving DecidableEq, Repr, Inhabited

namespace Recommendation

def encode (r : Recommendation) : Json :=
  .object [("strategy", r.strategy.encode), ("rationale", .string r.rationale),
    ("complexity", .real r.complexity)]

def decode : Json.Decoder Recommendation :=
  Json.record ["strategy", "rationale", "complexity"] fun m => do
    let strategy ← m.required "strategy" Strategy.decode
    let rationale ← m.required "rationale" .string
    let complexity ← m.required "complexity" .float
    return ⟨strategy, rationale, complexity⟩

end Recommendation

def complexity (t : Task) : Float :=
  let length := Number.ratio (Text.words t.description.toList).length 200
  let demands := Number.ratio t.constraints.length 5
  0.6 * Number.atMostOne length + 0.4 * Number.atMostOne demands

def mentions (text : List Char) (keywords : List String) : Bool :=
  keywords.any fun k => Text.occursIn k.toList text

def recommend (t : Task) : Recommendation :=
  let text := Text.lower t.description.toList
  let c := complexity t
  if mentions text debateWords then ⟨.debate, "Task weighs competing positions", c⟩
  else if !t.toolNames.isEmpty then
    ⟨.iterative, "Task can act through " ++ Nat.repr t.toolNames.length ++ " tool(s)", c⟩
  else if mentions text revisionWords ∨ 3 ≤ t.constraints.length then
    ⟨.reflexive, "Task asks for revision or carries many constraints to satisfy", c⟩
  else if mentions text explorationWords ∨ 0.6 ≤ c then
    ⟨.treeSearch, "Task benefits from exploring alternatives (complexity " ++ Number.twoPlaces c ++ ")",
      c⟩
  else ⟨.iterative, "Straightforward task", c⟩

def choose (t : Task) (o : Options) : Strategy :=
  o.strategy.getD (recommend t).strategy

end Deliberation.Selection
