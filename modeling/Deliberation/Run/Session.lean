import Deliberation.Run.Process

namespace Deliberation.Run

structure Call where
  instant : Nat
  query : Query

inductive Event where
  | began (call : Call)
  | cancelled (instant : Nat)

namespace Event

def instant : Event → Nat
  | began call => call.instant
  | cancelled instant => instant

def call? : Event → Option Call
  | began call => some call
  | cancelled _ => none

end Event

/-- Time, the cancel signal, which is set from the instant `cancelAt` on, and a log. One thread runs
all tasks, and what a task does between two waits is one step. The caller sets the signal before
the replies that are due at the same instant: to set it after them is to set it before those of the
next instant. -/
structure Session (σ : Type) where
  world : σ
  now : Nat
  cancelAt : Option Nat
  log : List Event
  tickets : Nat

variable {σ α β : Type}

def due (cancelAt : Option Nat) (instant : Nat) : Bool :=
  match cancelAt with
  | some c => c ≤ instant
  | none => false

def ending (limit : Nat) (r : Reply α) : Outcome (Except Failure α) :=
  if r.delay ≤ limit then
    match r.outcome with
    | .value a => .value (.ok a)
    | .panic t => .panic t
  else .value (.error (.timeout limit))

structure Wait (α : Type) where
  length : Nat
  cancels : Bool
  outcome : Outcome (Except Failure α)

/-- A call that cancels the run before it is due is given up. One that does so in the very instant
has ended by itself. -/
def Reply.wait (limit : Nat) (r : Reply α) : Wait α :=
  let due := min r.delay limit
  match r.cancels with
  | none => ⟨due, false, ending limit r⟩
  | some c =>
    if c < due then ⟨c, true, .value (.error .cancelled)⟩ else ⟨due, c == due, ending limit r⟩

namespace Session

def start (world : σ) (cancelAt : Option Nat) : Session σ :=
  ⟨world, 0, cancelAt, [], 0⟩

def calls (s : Session σ) : List Call :=
  s.log.filterMap Event.call?

def queries (s : Session σ) : List Query :=
  s.calls.map Call.query

def requests (s : Session σ) : List Request :=
  s.queries.filterMap Query.request?

def cancelled (s : Session σ) : Bool :=
  due s.cancelAt s.now

def cancel (s : Session σ) : Session σ :=
  { s with
    cancelAt := some ((s.cancelAt.getD s.now).min s.now)
    log := s.log ++ [.cancelled s.now] }

theorem cancelled_cancel (s : Session σ) : s.cancel.cancelled = true := by
  exact decide_eq_true (Nat.min_le_right _ _)

def begin (w : World σ) (q : Query) (s : Session σ) : Reply q.Answer × Session σ :=
  let (r, world) := w.respond q s.world
  (r, { s with world := world, log := s.log ++ [.began ⟨s.now, q⟩] })

def rouse (s : Session σ) (wake : Nat) : Nat :=
  match s.cancelAt with
  | some c => if c ≤ wake then max s.now c else wake
  | none => wake

def sleepTo (s : Session σ) (instant : Nat) : Session σ :=
  { s with now := instant }

def close (wait : Wait α) (s : Session σ) : Session σ :=
  if wait.cancels then s.cancel else s

def await (wake : Nat) (wait : Wait α) (s : Session σ) : Outcome (Except Failure α) × Session σ :=
  let s := s.sleepTo (s.rouse wake)
  if s.cancelled then (.value (.error .cancelled), s) else (wait.outcome, s.close wait)

def perform (w : World σ) (limit : Nat) (q : Query) (s : Session σ) :
    Outcome (Except Failure q.Answer) × Session σ :=
  let (r, s) := s.begin w q
  let wait := r.wait limit
  if wait.length = 0 then (wait.outcome, s.close wait) else s.await (s.now + wait.length) wait

end Session

inductive Stop (α : Type) where
  | finished (a : α)
  | crashed (text : String)
  | asleep (q : Query) (next : Except Failure q.Answer → Process α) (wake ticket : Nat)
      (wait : Wait q.Answer)

def Stop.rest : Stop α → Process α
  | finished a => .done a
  | crashed t => .crash t
  | asleep q next _ _ _ => .call q next

def Process.advance (w : World σ) (limit : Nat) : Process α → Session σ → Stop α × Session σ
  | .done a, s => (.finished a, s)
  | .crash t, s => (.crashed t, s)
  | .poll next, s => (next s.cancelled).advance w limit s
  | .call q next, s =>
    let (r, s) := s.begin w q
    let wait := r.wait limit
    if wait.length = 0 then
      match wait.outcome with
      | .value a => (next a).advance w limit (s.close wait)
      | .panic t => (.crashed t, s.close wait)
    else
      (.asleep q next (s.now + wait.length) s.tickets wait, { s with tickets := s.tickets + 1 })

def Stop.resume (w : World σ) (limit : Nat) (stop : Stop α) (s : Session σ) :
    Stop α × Session σ :=
  match stop with
  | .asleep _ next wake _ wait =>
    match s.await wake wait with
    | (.value a, s) => (next a).advance w limit s
    | (.panic t, s) => (.crashed t, s)
  | stop => (stop, s)

def Process.run (w : World σ) (limit : Nat) : Process α → Session σ → Outcome α × Session σ
  | .done a, s => (.value a, s)
  | .crash t, s => (.panic t, s)
  | .poll next, s => (next s.cancelled).run w limit s
  | .call q next, s =>
    match s.perform w limit q with
    | (.value a, s) => (next a).run w limit s
    | (.panic t, s) => (.panic t, s)

end Deliberation.Run
