import Deliberation.Dialogue.Registry
import Deliberation.Engine.Team
import Deliberation.Script.Deck
import Deliberation.Text.Search

namespace Deliberation.Script

open Run

inductive Toolbox where
  | registry (tools : Registry Nat) (decks : List (Nat × Deck (Reply (Except Failure String))))
  | executor (declarations : Outcome (List ToolDeclaration))
      (outcomes : List (String × Deck (Reply ToolOutcome)))

structure Cast where
  completions : List (List String × Deck (Reply (Except Failure Completion)))
  toolbox : Toolbox
  scores : List (String × Deck (Reply Float))
  otherScores : Deck (Reply Float)
  validations : Deck (Reply Validation)
  attempts : Deck (Reply (Except Failure String))
  toolRuns : List (String × Json)
  memories : List Reflection.Memory

namespace Toolbox

def empty : Toolbox :=
  .registry .empty []

def register (tools : Registry Nat) (decks : List (Nat × Deck (Reply (Except Failure String))))
    (d : ToolDeclaration) (replies : List (Reply (Except Failure String))) : Toolbox :=
  .registry (tools.register ⟨d, decks.length⟩) (decks ++ [(decks.length, .ofList replies)])

def declarations : Toolbox → Outcome (List ToolDeclaration)
  | registry tools _ => .value tools.declarations
  | executor declarations _ => declarations

end Toolbox

def cuesFit (text : List Char) (cues : List String) : Bool :=
  cues.all fun cue => Text.occursIn cue.toList text

def unscripted : Except Failure Completion :=
  .error (.backend "no scripted reply")

namespace Cast

def complete (r : Request) : Acting Cast (Except Failure Completion) := fun c =>
  match drawFirst (cuesFit r.text.toList) c.completions with
  | some (reply, decks) => (reply.getD (.atOnce unscripted), { c with completions := decks })
  | none => (.atOnce unscripted, c)

def invoke (tool : Tool Nat) (arguments : Json) : Acting Cast (Except Failure String) := fun c =>
  let c := { c with toolRuns := c.toolRuns ++ [(tool.declaration.name, arguments)] }
  match c.toolbox with
  | .registry tools decks =>
    match drawFirst (· == tool.handle) decks with
    | some (reply, decks) => (reply.getD (.atOnce (.ok "")), { c with toolbox := .registry tools decks })
    | none => (.atOnce (.ok ""), c)
  | .executor _ _ => (.atOnce (.ok ""), c)

def bareFailure : ToolOutcome :=
  ⟨false, "", none⟩

def execute (name : String) (arguments : Json) : Acting Cast ToolOutcome := fun c =>
  match c.toolbox with
  | .registry tools _ => tools.execute (m := Acting Cast) invoke name arguments c
  | .executor declarations outcomes =>
    let c := { c with toolRuns := c.toolRuns ++ [(name, arguments)] }
    match drawFirst (· == name) outcomes with
    | some (reply, outcomes) =>
      (reply.getD (.atOnce bareFailure), { c with toolbox := .executor declarations outcomes })
    | none => (.atOnce bareFailure, c)

def score (candidate : String) : Acting Cast Float := fun c =>
  match drawFirst (· == candidate) c.scores with
  | some (reply, decks) => (reply.getD (.atOnce 0.0), { c with scores := decks })
  | none =>
    (c.otherScores.top?.getD (.atOnce 0.0), { c with otherScores := c.otherScores.drawn })

def check : Acting Cast Validation := fun c =>
  (c.validations.top?.getD (.atOnce .pass), { c with validations := c.validations.drawn })

def attempt (m : Reflection.Memory) : Acting Cast (Except Failure String) := fun c =>
  (c.attempts.top?.getD (.atOnce (.ok "")),
    { c with attempts := c.attempts.drawn, memories := c.memories ++ [m] })

end Cast

def world : World Cast where
  respond
    | .complete r => Cast.complete r
    | .execute name arguments => Cast.execute name arguments
    | .score candidate _ => Cast.score candidate
    | .check _ _ => Cast.check
    | .attempt _ m => Cast.attempt m

end Deliberation.Script
