import Deliberation.Engine.Team
import Deliberation.Outcome.Result
import Deliberation.Prompt

namespace Deliberation.Engine.Iterative

open Run

structure State where
  messages : List Message
  trace : Trace
  lastText : String
  deriving Inhabited

def advertised (t : Task) (tools : List ToolDeclaration) : List ToolDeclaration :=
  tools.filter fun d => t.allows d.name

def toolNames (tools : List ToolDeclaration) : String :=
  if tools.isEmpty then "none" else ", ".intercalate (tools.map ToolDeclaration.name)

namespace State

def start (t : Task) (tools : List ToolDeclaration) : State :=
  ⟨[.system (Prompt.iterative (toolNames tools)), .user t.render], .empty, ""⟩

def think (s : State) (c : Completion) : State :=
  if Text.blankString c.text then
    { s with trace := s.trace.record .think "(no reasoning text)" }
  else { s with trace := s.trace.record .think c.text, lastText := c.text }

def request (s : State) (c : Completion) : State :=
  { s with messages := s.messages ++ [.requesting c.text c.toolCalls] }

def act (s : State) (call : ToolCall) : State :=
  { s with trace := s.trace.record .act (call.name ++ "(" ++ call.arguments.text ++ ")") }

def observe (s : State) (call : ToolCall) (text : String) : State :=
  { s with
    trace := s.trace.record .observe text
    messages := s.messages ++ [.tool call.id text] }

end State

def unavailable (name : String) : Failure :=
  .tool name "tool is not available for this task"

/-- A call that overruns is a failed outcome; only a cancelled one fails the run. -/
def outcomeOf : Except Failure ToolOutcome → Except Failure ToolOutcome
  | .ok o => .ok o
  | .error .cancelled => .error .cancelled
  | .error e => .ok (.failed e.message)

def observation (t : Task) (call : ToolCall) : Process (Except Failure String) :=
  if t.allows call.name then
    .guarded (.execute call.name call.arguments) fun a =>
      .done ((outcomeOf a).map ToolOutcome.observation)
  else .done (.ok (ToolOutcome.failed (unavailable call.name).message).observation)

def answer (t : Task) : List ToolCall → State → Process (State × Option Failure)
  | [], s => .done (s, none)
  | call :: calls, s => do
    if ← Process.cancelled then return (s, some .cancelled)
    let s := s.act call
    match ← observation t call with
    | .ok text => answer t calls (s.observe call text)
    | .error e => return (s, some e)

def loop (t : Task) (tools : List ToolDeclaration) (limit : Nat) :
    Nat → State → Process (State × Except Failure String)
  | 0, s => .done (s, .error (.exhausted "Iteration" limit))
  | left + 1, s => do
    match ← complete ⟨s.messages, tools⟩ with
    | .error e => return (s, .error e)
    | .ok c =>
      let s := s.think c
      if !c.hasToolCalls then return (s, .ok c.text)
      match ← answer t c.toolCalls (s.request c) with
      | (s, some e) => return (s, .error e)
      | (s, none) => loop t tools limit left s

def conclude : State × Except Failure String → Result
  | (s, .ok text) => .success .iterative text 0.8 s.trace
  | (s, .error .cancelled) => .cancelled .iterative s.trace
  | (s, .error (.exhausted bound limit)) =>
    let confidence := if Text.blankString s.lastText then 0.0 else 0.5
    .partialAnswer .iterative s.lastText confidence
      (s.trace.record .halt (Failure.exhausted bound limit).message)
  | (s, .error e) => .degraded .iterative s.lastText s.trace e.message

def run (declarations : Outcome (List ToolDeclaration)) (t : Task) (o : Options) :
    Process Result := do
  let tools := advertised t (← Process.ofOutcome declarations)
  let limit := max o.maxIterations 1
  return conclude (← loop t tools limit limit (.start t tools))

end Deliberation.Engine.Iterative
