import Deliberation.Engine.Debating
import Deliberation.Engine.Iterative
import Deliberation.Engine.Reflexive
import Deliberation.Engine.TreeSearch
import Deliberation.Text.Escape

namespace Deliberation.Engine

open Run

variable {σ : Type}

def play (w : World σ) (team : Team) (strategy : Strategy) (t : Task) (o : Options)
    (s : Session σ) : Outcome Result × Session σ :=
  match strategy with
  | .iterative => (Iterative.run team.declarations t o).run w o.callTimeoutMs s
  | .reflexive => (Reflexive.run team t o).run w o.callTimeoutMs s
  | .treeSearch =>
    ((TreeSearch.search team t o).bind fun r => .done r.1).run w o.callTimeoutMs s
  | .debate =>
    ((Debating.hold t (Debating.debaters o) o).bind fun r => .done r.result).run
      w o.callTimeoutMs s

def blankDescription : Failure :=
  .validation "description" "task description must not be empty"

def crashed (text : String) : String :=
  "Reasoning engine failed: task # panicked with message " ++ Text.quote text

/-- Every run ends with a result: a blank task is turned away without any call, and an engine
that panics has failed. -/
def orchestrate (w : World σ) (team : Team) (t : Task) (o : Options) (s : Session σ) :
    Result × Session σ :=
  let strategy := team.choose t o
  if t.blank then (.failure strategy blankDescription.message, s)
  else
    match play w team strategy t o s with
    | (.value r, s) => (r, s)
    | (.panic text, s) => (.failure strategy (crashed text), s)

end Deliberation.Engine
