import Deliberation.Dialogue.Registry
import Deliberation.Pipe.Client
import Deliberation.Run.Query

namespace Deliberation.Pipe

open Run

variable {σ : Type}

def noTools : Registry Empty :=
  .empty

/-- A completion takes as long as the call of the pipe, which nobody waits for beyond `limit`. -/
def completed (n : Network σ) (c : Client) (pipe : String) (limit : Nat) (r : Request) :
    Acting σ (Except Failure Completion) := fun s =>
  let (answer, elapsed, s) := c.complete n pipe (some limit) r s
  (⟨none, elapsed, .value answer⟩, s)

def world (n : Network σ) (c : Client) (pipe : String) (limit : Nat) : World σ where
  respond
    | .complete r => completed n c pipe limit r
    | .execute name arguments =>
      noTools.execute (m := Acting σ) (fun t _ => nomatch t.handle) name arguments
    | .score _ _ => pure 0.0
    | .check _ _ => pure (.fail "no validator")
    | .attempt _ _ => pure (.error (.backend "no attempter"))

end Deliberation.Pipe
