import Deliberation.Run.Schedule

namespace Deliberation.Run

/-- A process that may also let workers run side by side and wait for them all. It is given their
values in the order in which they end. -/
inductive Program (β α : Type) where
  | done (a : α)
  | crash (text : String)
  | poll (next : Bool → Program β α)
  | call (q : Query) (next : Except Failure q.Answer → Program β α)
  | fork (workers : List (Process β)) (next : List β → Program β α)

namespace Program

variable {σ α β γ : Type}

protected def bind : Program β α → (α → Program β γ) → Program β γ
  | done a, f => f a
  | crash t, _ => crash t
  | poll next, f => poll fun b => (next b).bind f
  | call q next, f => call q fun a => (next a).bind f
  | fork ps next, f => fork ps fun r => (next r).bind f

instance : Monad (Program β) where
  pure := done
  bind := Program.bind

def ofProcess : Process α → Program β α
  | .done a => done a
  | .crash t => crash t
  | .poll next => poll fun b => ofProcess (next b)
  | .call q next => call q fun a => ofProcess (next a)

instance : MonadLift Process (Program β) where
  monadLift := ofProcess

def guarded (q : Query) (next : Except Failure q.Answer → Program β α) : Program β α :=
  poll fun cancelled => if cancelled then next (.error .cancelled) else call q next

theorem guarded_bind (q : Query) (next : Except Failure q.Answer → Program β α)
    (f : α → Program β γ) : (guarded q next).bind f = guarded q fun a => (next a).bind f := by
  refine congrArg poll (funext fun cancelled => ?_)
  cases cancelled <;> rfl

theorem ofProcess_guarded (q : Query) (next : Except Failure q.Answer → Process α) :
    (ofProcess (.guarded q next) : Program β α) = guarded q fun a => ofProcess (next a) := by
  refine congrArg poll (funext fun cancelled => ?_)
  cases cancelled <;> rfl

def together (ps : List (Process β)) : Program β (List β) :=
  fork ps done

/-- Runs a program in a task of its own, whose calls sleep while no other does. -/
def run (w : World σ) (limit : Nat) : Program β α → Session σ → Outcome α × Session σ
  | .done a, s => (.value a, s)
  | .crash t, s => (.panic t, s)
  | .poll next, s => (next s.cancelled).run w limit s
  | .call q next, s =>
    match s.perform w limit q with
    | (.value a, s) => (next a).run w limit s
    | (.panic t, s) => (.panic t, s)
  | .fork ps next, s =>
    let (joined, s) := runAll w limit ps s
    (next joined).run w limit s

end Program

def inOrder {α : Type} (joined : List (Nat × α)) : List (Nat × α) :=
  joined.mergeSort fun a b => a.1 ≤ b.1

end Deliberation.Run
