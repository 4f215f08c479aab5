import Deliberation.Debate.Perspective
import Deliberation.Debate.Verdict
import Deliberation.Engine.Team
import Deliberation.Outcome.Result
import Deliberation.Prompt
import Deliberation.Run.Program

namespace Deliberation.Engine.Debating

open Run Debate

abbrev Speech := Except Failure String

structure State where
  arguments : List Argument
  trace : Trace
  deriving Inhabited

namespace State

def start : State :=
  ⟨[], .empty⟩

def add (s : State) (a : Argument) : State :=
  ⟨s.arguments ++ [a], s.trace.record .argue a.line⟩

end State

def debateSoFar (arguments : List Argument) : String :=
  if arguments.isEmpty then "(no arguments yet)" else history arguments

def debaterRequest (t : Task) (perspective : String) (soFar : String) (round : Nat) : Request :=
  .ofMessages [.system (Prompt.debater perspective),
    .user ("Task:\n" ++ t.render ++ "\n\nDebate so far:\n" ++ soFar ++
      "\n\nGive your argument for round " ++ Nat.repr (round + 1) ++ ".")]

def judgeRequest (t : Task) (arguments : List Argument) : Request :=
  .ofMessages [.system Prompt.judge,
    .user ("Task:\n" ++ t.render ++ "\n\nDebate:\n" ++ history arguments)]

def speak (t : Task) (soFar : String) (round : Nat) (perspective : String) (id : Nat) :
    Process (Nat × Speech) := do
  let reply ← complete (debaterRequest t perspective soFar round)
  return (id, reply.map Completion.text)

def speakers (t : Task) (names : List String) (soFar : String) (round : Nat) :
    List (Process (Nat × Speech)) :=
  names.zipIdx.map fun (name, id) => speak t soFar round name id

def heard (names : List String) (joined : List (Nat × Speech)) : List (Nat × String × Speech) :=
  (inOrder joined).filterMap fun (id, speech) => names[id]?.map fun name => (id, name, speech)

/-- Takes in the speeches of a round: the state, the last failure, and whether the round must be
given up. -/
def takeIn (round : Nat) : List (Nat × String × Speech) → State → Option Failure →
    State × Option Failure × Bool
  | [], s, e => (s, e, false)
  | (id, name, .ok text) :: r, s, e =>
    if Text.blankString text then takeIn round r s e
    else takeIn round r (s.add ⟨round, id, name, text⟩) e
  | (_, _, .error .cancelled) :: _, s, e => (s, e, true)
  | (_, _, .error e) :: r, s, _ => takeIn round r s (some e)

def silent (round : Nat) : Failure :=
  .backend ("no debater produced an argument in round " ++ Nat.repr (round + 1))

def rounds (t : Task) (names : List String) :
    Nat → Nat → State → Program (Nat × Speech) (State × Option Failure)
  | 0, _, s => .done (s, none)
  | left + 1, round, s => do
    if ← Process.cancelled then return (s, some .cancelled)
    let soFar := debateSoFar s.arguments
    let joined ← Program.together (speakers t names soFar round)
    if ← Process.cancelled then return (s, some .cancelled)
    match takeIn round (heard names joined) s none with
    | (s', _, true) => return (s', some .cancelled)
    | (s', e, false) =>
      if s'.arguments.length = s.arguments.length then return (s', some (e.getD (silent round)))
      rounds t names left (round + 1) s'

def judge (t : Task) (arguments : List Argument) : Process (Option Verdict) := do
  match ← complete (judgeRequest t arguments) with
  | .ok c => return some ((Verdict.parse? c.text).getD (fallback arguments))
  | .error .cancelled => return none
  | .error _ => return some (fallback arguments)

structure Report where
  result : Result
  arguments : List Argument
  verdict : Option Verdict
  deriving Inhabited

def abort (s : State) : Failure → Result
  | .cancelled => .cancelled .debate s.trace
  | e => .degraded .debate "" s.trace e.message

def conclude (s : State) : Option Verdict → Report
  | none => ⟨.cancelled .debate s.trace, s.arguments, none⟩
  | some v =>
    let trace := s.trace.record .judge v.describe
    ⟨.success .debate v.selectedApproach v.confidence trace, s.arguments, some v⟩

def hold (t : Task) (names : List String) (o : Options) : Program (Nat × Speech) Report := do
  match ← rounds t names (max o.maxRounds 1) 0 .start with
  | (s, some e) => return ⟨abort s e, s.arguments, none⟩
  | (s, none) => return conclude s (← judge t s.arguments)

def debaters (o : Options) : List String :=
  perspectives (max o.debaterCount 1)

end Deliberation.Engine.Debating
