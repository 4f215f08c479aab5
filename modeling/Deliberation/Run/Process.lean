import Deliberation.Run.Query

namespace Deliberation.Run

/-- A sequence of looks at the cancel signal and of calls. A call begins whatever the signal says;
while it is waited for, the signal and the time limit may end it before its collaborator does. -/
inductive Process (α : Type) where
  | done (a : α)
  | crash (text : String)
  | poll (next : Bool → Process α)
  | call (q : Query) (next : Except Failure q.Answer → Process α)

namespace Process

variable {α β : Type}

protected def bind : Process α → (α → Process β) → Process β
  | done a, f => f a
  | crash t, _ => crash t
  | poll next, f => poll fun b => (next b).bind f
  | call q next, f => call q fun a => (next a).bind f

instance : Monad Process where
  pure := done
  bind := Process.bind

theorem done_bind (a : α) (f : α → Process β) : (done a).bind f = f a :=
  rfl

/-- Refuses the call once the run is cancelled. The look and the begin of the call are one step. -/
def guarded (q : Query) (next : Except Failure q.Answer → Process α) : Process α :=
  poll fun cancelled => if cancelled then next (.error .cancelled) else call q next

theorem guarded_bind (q : Query) (next : Except Failure q.Answer → Process α)
    (f : α → Process β) : (guarded q next).bind f = guarded q fun a => (next a).bind f := by
  refine congrArg poll (funext fun cancelled => ?_)
  cases cancelled <;> rfl

def cancelled : Process Bool :=
  poll done

def ofOutcome : Outcome α → Process α
  | .value a => done a
  | .panic t => crash t

inductive Below : Process α → Process α → Prop
  | poll (next : Bool → Process α) (b : Bool) : Below (next b) (poll next)
  | call (q : Query) (next : Except Failure q.Answer → Process α) (a : Except Failure q.Answer) :
      Below (next a) (call q next)
  | done (a : α) (q : Query) (next : Except Failure q.Answer → Process α) :
      Below (done a) (call q next)
  | crash (t : String) (q : Query) (next : Except Failure q.Answer → Process α) :
      Below (crash t) (call q next)

theorem acc_done (a : α) : Acc Below (done a) :=
  ⟨_, fun _ h => nomatch h⟩

theorem acc_crash (t : String) : Acc (Below (α := α)) (crash t) :=
  ⟨_, fun _ h => nomatch h⟩

theorem wellFounded_below : WellFounded (Below (α := α)) := by
  refine ⟨fun p => ?_⟩
  induction p with
  | done a => exact acc_done a
  | crash t => exact acc_crash t
  | poll next ih => exact ⟨_, fun p h => by cases h; exact ih _⟩
  | call q next ih =>
    refine ⟨_, fun p h => ?_⟩
    cases h with
    | call => exact ih _
    | done => exact acc_done _
    | crash => exact acc_crash _

end Process

end Deliberation.Run
