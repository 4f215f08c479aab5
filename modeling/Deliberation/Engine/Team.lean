import Deliberation.Run.Process
import Deliberation.Task.Selection

namespace Deliberation.Engine

inductive Evaluator where
  | backend
  | heuristic
  | external
  deriving DecidableEq, Repr, Inhabited

inductive Validator where
  | backend
  | external
  deriving DecidableEq, Repr, Inhabited

inductive Attempter where
  | backend
  | external
  deriving DecidableEq, Repr, Inhabited

structure Team where
  evaluator : Evaluator
  validator : Validator
  attempter : Attempter
  declarations : Run.Outcome (List ToolDeclaration)
  select : Task → Options → Strategy

namespace Team

def choose (team : Team) (t : Task) (o : Options) : Strategy :=
  o.strategy.getD (team.select t o)

def recommended (t : Task) (_ : Options) : Strategy :=
  (Selection.recommend t).strategy

end Team

open Run

def complete (r : Request) : Process (Except Failure Completion) :=
  .guarded (.complete r) fun a => .done (a.bind id)

end Deliberation.Engine
