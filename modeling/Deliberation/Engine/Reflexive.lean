import Deliberation.Engine.Team
import Deliberation.Outcome.Result
import Deliberation.Prompt
import Deliberation.Reply.Grade

namespace Deliberation.Engine.Reflexive

open Run Reflection

structure State where
  trace : Trace
  memory : Memory
  lastOutput : String
  deriving Inhabited

namespace State

def start : State :=
  ⟨.empty, [], ""⟩

def judge (s : State) (number : Nat) (output : String) (v : Validation) : State :=
  let word := if v.passed then "passed" else "failed"
  { s with
    lastOutput := output
    trace := s.trace.record .act
      ("Attempt " ++ Nat.repr number ++ " " ++ word ++ ": " ++ Text.preview output 500) }

def remember (s : State) (number : Nat) (output : String) (v : Validation) : State :=
  { s with memory := s.memory ++ [⟨number, output, v.feedback, none⟩] }

end State

def criticise (critique : String) : Memory → Memory
  | [] => []
  | [e] => [{ e with critique := some critique }]
  | e :: f :: m => e :: criticise critique (f :: m)

def State.criticise (s : State) (critique : String) : State :=
  { s with
    trace := s.trace.record .critique critique
    memory := Reflexive.criticise critique s.memory }

def attemptRequest (t : Task) (m : Memory) : Request :=
  .ofMessages <| [.system Prompt.attempt, .user t.render] ++
    if m.isEmpty then [] else [.user ("Lessons from earlier attempts:\n\n" ++ m.render)]

def checkRequest (t : Task) (output : String) : Request :=
  .ofMessages [.system Prompt.validator,
    .user ("Task:\n" ++ t.render ++ "\n\nAnswer:\n" ++ output)]

def critiqueRequest (t : Task) (m : Memory) : Request :=
  .ofMessages [.system Prompt.critique,
    .user ("Task:\n" ++ t.render ++ "\n\nHistory:\n" ++ m.render)]

def attempt (team : Team) (t : Task) (m : Memory) : Process (Except Failure String) :=
  match team.attempter with
  | .backend => do
    let reply ← complete (attemptRequest t m)
    return reply.map Completion.text
  | .external => .guarded (.attempt t m) fun a => .done (a.bind id)

/-- A failed attempt is checked like any other, by a text that says so. -/
def output : Except Failure String → Except Failure String
  | .ok text => .ok text
  | .error .cancelled => .error .cancelled
  | .error e => .ok ("Attempt failed: " ++ e.message)

def unreachable (e : Failure) : Validation :=
  .fail ("Validator unavailable: " ++ e.message)

def graded : Except Failure Completion → Validation
  | .ok c => Reply.grade c.text
  | .error e => unreachable e

def validation : Except Failure Validation → Except Failure Validation
  | .ok v => .ok v
  | .error .cancelled => .error .cancelled
  | .error e => .ok (unreachable e)

def check (team : Team) (t : Task) (text : String) : Process (Except Failure Validation) :=
  match team.validator with
  | .backend =>
    .guarded (.complete (checkRequest t text)) fun a => .done (validation (a.map graded))
  | .external => .guarded (.check text t) fun a => .done (validation a)

def critique (t : Task) (m : Memory) : Process (Except Failure String) := do
  let reply ← complete (critiqueRequest t m)
  return reply.map fun c => Text.trimString c.text

def loop (team : Team) (t : Task) (limit : Nat) :
    Nat → Nat → State → Process (State × Except Failure (String × Float))
  | 0, _, s => .done (s, .error (.exhausted "Attempt" limit))
  | left + 1, number, s => do
    match output (← attempt team t s.memory) with
    | .error e => return (s, .error e)
    | .ok text =>
      match ← check team t text with
      | .error e => return ({ s with lastOutput := text }, .error e)
      | .ok v =>
        let s := s.judge number text v
        if v.passed then return (s, .ok (text, v.score.getD 0.9))
        let s := s.remember number text v
        if left = 0 then return (s, .error (.exhausted "Attempt" limit))
        match ← critique t s.memory with
        | .error e => return (s, .error e)
        | .ok words => loop team t limit left (number + 1) (s.criticise words)

def conclude : State × Except Failure (String × Float) → Result
  | (s, .ok (text, confidence)) => .success .reflexive text confidence s.trace
  | (s, .error .cancelled) => .cancelled .reflexive s.trace
  | (s, .error (.exhausted bound limit)) =>
    .partialAnswer .reflexive s.lastOutput 0.3
      (s.trace.record .halt (Failure.exhausted bound limit).message)
  | (s, .error e) => .degraded .reflexive s.lastOutput s.trace e.message

def run (team : Team) (t : Task) (o : Options) : Process Result := do
  let limit := max o.maxIterations 1
  return conclude (← loop team t limit limit 1 .start)

end Deliberation.Engine.Reflexive
