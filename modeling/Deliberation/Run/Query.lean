import Deliberation.Dialogue.Completion
import Deliberation.Dialogue.Validation
import Deliberation.Outcome.Failure
import Deliberation.Reflection.Memory
import Deliberation.Task.Basic

namespace Deliberation.Run

inductive Query where
  | complete (request : Request)
  | execute (name : String) (arguments : Json)
  | score (candidate : String) (task : Task)
  | check (output : String) (task : Task)
  | attempt (task : Task) (memory : Reflection.Memory)
  deriving Inhabited

namespace Query

abbrev Answer : Query → Type
  | complete _ => Except Failure Completion
  | execute _ _ => ToolOutcome
  | score _ _ => Float
  | check _ _ => Validation
  | attempt _ _ => Except Failure String

def request? : Query → Option Request
  | complete r => some r
  | _ => none

end Query

inductive Outcome (α : Type) where
  | value (a : α)
  | panic (text : String)
  deriving Repr, Inhabited

/-- A collaborator takes its time and then answers or panics. It may cancel the run so long after
its call has begun, in the instant in which it answers at the latest. -/
structure Reply (α : Type) where
  cancels : Option Nat
  delay : Nat
  outcome : Outcome α

namespace Outcome

def map {α β : Type} (f : α → β) : Outcome α → Outcome β
  | value a => value (f a)
  | panic t => panic t

end Outcome

namespace Reply

def atOnce {α : Type} (a : α) : Reply α :=
  ⟨none, 0, .value a⟩

def map {α β : Type} (f : α → β) (r : Reply α) : Reply β :=
  ⟨r.cancels, r.delay, r.outcome.map f⟩

end Reply

abbrev Acting (σ α : Type) := σ → Reply α × σ

instance {σ : Type} : Functor (Acting σ) where
  map f x := fun s => ((x s).1.map f, (x s).2)

instance {σ : Type} : Pure (Acting σ) where
  pure a := fun s => (.atOnce a, s)

structure World (σ : Type) where
  respond : (q : Query) → Acting σ q.Answer

end Deliberation.Run
