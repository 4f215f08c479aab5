import Deliberation.Proofs.Run.Steady

namespace Deliberation.Run

open Session

variable {σ α β γ : Type} {w : World σ} {limit : Nat}

theorem Session.queries_begin (q : Query) (s : Session σ) :
    (s.begin w q).2.queries = s.queries ++ [q] := by
  simp [queries, calls_begin]

theorem cancelled_steady (w : World σ) : Steady w fun s => s.cancelled = true where
  begin := fun h _ => h
  cancel := fun {s _ _ _} _ _ => cancelled_cancel s
  sleepTo := fun h _ ht => due_mono ht h
  ticket := fun h => h

def Session.after (w : World σ) (limit : Nat) (q : Query) (s : Session σ) : Session σ :=
  (s.perform w limit q).2

theorem Session.world_after (q : Query) (s : Session σ) :
    (s.after w limit q).world = (w.respond q s.world).2 := by
  rw [after, perform]
  dsimp only
  split
  · exact world_close _ _
  · exact world_await _ _ _

theorem Session.calls_after (q : Query) (s : Session σ) :
    (s.after w limit q).calls = s.calls ++ [⟨s.now, q⟩] := by
  rw [after, perform]
  dsimp only
  split
  · exact (calls_close _ _).trans (calls_begin q s)
  · exact (calls_await _ _ _).trans (calls_begin q s)

theorem Session.queries_after (q : Query) (s : Session σ) :
    (s.after w limit q).queries = s.queries ++ [q] := by
  simp [queries, calls_after]

inductive Reply.Ends (limit : Nat) (c : Prop) (r : Reply α) : Outcome (Except Failure α) → Prop
  | itself {o : Outcome (Except Failure α)} (h : ending limit r = o) : Ends limit c r o
  | lost (hc : c) (hr : 0 < r.delay) : Ends limit c r (.value (.error .cancelled))

theorem Reply.Ends.imp {c d : Prop} {r : Reply α} {o : Outcome (Except Failure α)}
    (h : r.Ends limit c o) (hd : c → d) : r.Ends limit d o := by
  cases h with
  | itself h => exact .itself h
  | lost hc hr => exact .lost (hd hc) hr

theorem Reply.wait_ends (limit : Nat) (r : Reply α) :
    r.Ends limit ((r.wait limit).cancels = true) (r.wait limit).outcome := by
  rw [wait]
  split
  · exact .itself rfl
  · split
    · exact .lost rfl (by omega)
    · exact .itself rfl

theorem Session.cancelled_close {wait : Wait α} (h : wait.cancels = true) (s : Session σ) :
    (s.close wait).cancelled = true := by
  rw [close, if_pos h]
  exact cancelled_cancel s

theorem Session.await_ends {r : Reply α} (hr : 0 < r.delay) (wake : Nat) (s : Session σ) :
    r.Ends limit ((s.await wake (r.wait limit)).2.cancelled = true)
      (s.await wake (r.wait limit)).1 := by
  rw [await]
  split
  · next hc => exact .lost hc hr
  · exact (r.wait_ends limit).imp fun h => cancelled_close h _

theorem Session.perform_ends (w : World σ) (limit : Nat) (q : Query) (s : Session σ) :
    (w.respond q s.world).1.Ends limit ((s.after w limit q).cancelled = true)
      (s.perform w limit q).1 := by
  rw [after, perform]
  dsimp only
  split
  · exact (Reply.wait_ends limit _).imp fun h => cancelled_close h _
  · next hlength =>
    have hle := (s.begin w q).1.length_wait_le limit
    exact await_ends (by omega) _ _

def Program.resumed (next : Except Failure γ → Program β α) :
    Outcome (Except Failure γ) → Program β α
  | .value a => next a
  | .panic t => crash t

theorem Program.run_call (q : Query) (next : Except Failure q.Answer → Program β α)
    (s : Session σ) :
    (call q next).run w limit s =
      (resumed next (s.perform w limit q).1).run w limit (s.after w limit q) := by
  rw [run, after]
  generalize s.perform w limit q = ended
  obtain ⟨o, s⟩ := ended
  cases o <;> rfl

theorem Program.run_bind_eq (p : Program β α) (f : α → Program β γ) (s : Session σ) :
    (p.bind f).run w limit s =
      match p.run w limit s with
      | (.value a, s) => (f a).run w limit s
      | (.panic t, s) => (.panic t, s) := by
  induction p generalizing s with
  | done a => rfl
  | crash t => rfl
  | poll next ih => exact ih _ s
  | call q next ih =>
    rw [Program.bind, run_call, run_call]
    cases (s.perform w limit q).1 with
    | value a => exact ih a _
    | panic t => rfl
  | fork ps next ih => exact ih _ _

theorem Program.run_bind {p : Program β α} {f : α → Program β γ} {a : α} {s s' : Session σ}
    (h : p.run w limit s = (.value a, s')) :
    (p.bind f).run w limit s = (f a).run w limit s' := by
  rw [run_bind_eq, h]

theorem Program.run_ofProcess (p : Process α) (s : Session σ) :
    (ofProcess p : Program β α).run w limit s = p.run w limit s := by
  induction p generalizing s with
  | done a => rfl
  | crash t => rfl
  | poll next ih => exact ih _ s
  | call q next ih =>
    rw [ofProcess, run_call, Process.run_call]
    cases (s.perform w limit q).1 with
    | value a => exact ih a _
    | panic t => rfl

end Deliberation.Run
