import Deliberation.Proofs.Run.Call

namespace Deliberation.Run

open Session

variable {σ τ α β : Type} {P : Query → Prop} {limit : Nat}

inductive Process.Asks (P : Query → Prop) : Process α → Prop
  | done (a : α) : Asks P (.done a)
  | crash (t : String) : Asks P (.crash t)
  | poll {next : Bool → Process α} (h : ∀ b, Asks P (next b)) : Asks P (.poll next)
  | call {q : Query} {next : Except Failure q.Answer → Process α} (hq : P q)
      (h : ∀ a, Asks P (next a)) : Asks P (.call q next)

theorem Process.Asks.bind {p : Process α} {f : α → Process β} (hp : p.Asks P)
    (hf : ∀ a, (f a).Asks P) : (p.bind f).Asks P := by
  induction hp with
  | done a => exact hf a
  | crash t => exact .crash t
  | poll _ ih => exact .poll ih
  | call hq _ ih => exact .call hq ih

theorem Process.asks_of_forall (hP : ∀ q, P q) (p : Process α) : p.Asks P := by
  induction p with
  | done a => exact .done a
  | crash t => exact .crash t
  | poll next ih => exact .poll ih
  | call q next ih => exact .call (hP q) ih

theorem Process.Asks.guarded {q : Query} {next : Except Failure q.Answer → Process α} (hq : P q)
    (h : ∀ a, (next a).Asks P) : (Process.guarded q next).Asks P := by
  refine .poll fun cancelled => ?_
  cases cancelled with
  | true => exact h _
  | false => exact .call hq h

theorem Process.run_asks {p : Process α} (hp : p.Asks P) (w : World σ) {s : Session σ}
    (hs : ∀ c ∈ s.calls, P c.query) : ∀ c ∈ (p.run w limit s).2.calls, P c.query := by
  induction hp generalizing s with
  | done | crash => exact hs
  | poll _ ih => exact ih s.cancelled hs
  | @call q next hq _ ih =>
    have hafter : ∀ c ∈ (s.after w limit q).calls, P c.query := by
      rw [calls_after]
      exact List.forall_mem_append.2 ⟨hs, List.forall_mem_singleton.2 hq⟩
    rw [run_call]
    cases (s.perform w limit q).1 with
    | value a => exact ih a hafter
    | panic t => exact hafter

def Indistinguishable (P : Query → Prop) (R : σ → τ → Prop) (w : World σ) (w' : World τ) : Prop :=
  ∀ q x y, P q → R x y →
    (w.respond q x).1 = (w'.respond q y).1 ∧ R (w.respond q x).2 (w'.respond q y).2

structure Session.Alike (R : σ → τ → Prop) (s : Session σ) (s' : Session τ) : Prop where
  world : R s.world s'.world
  now : s.now = s'.now
  cancelAt : s.cancelAt = s'.cancelAt
  log : s.log = s'.log
  tickets : s.tickets = s'.tickets

variable {R : σ → τ → Prop} {w : World σ} {w' : World τ} {s : Session σ} {s' : Session τ}

namespace Session.Alike

theorem cancelled_eq (h : s.Alike R s') : s.cancelled = s'.cancelled := by
  rw [Session.cancelled, Session.cancelled, h.cancelAt, h.now]

theorem calls_eq (h : s.Alike R s') : s.calls = s'.calls :=
  congrArg (List.filterMap Event.call?) h.log

theorem cancel (h : s.Alike R s') : s.cancel.Alike R s'.cancel where
  world := h.world
  now := h.now
  cancelAt := by rw [Session.cancel, Session.cancel, h.cancelAt, h.now]
  log := by rw [Session.cancel, Session.cancel, h.log, h.now]
  tickets := h.tickets

theorem rouse_eq (h : s.Alike R s') (wake : Nat) : s.rouse wake = s'.rouse wake := by
  rw [rouse, rouse, h.cancelAt, h.now]

theorem sleepTo (h : s.Alike R s') (instant : Nat) :
    (s.sleepTo instant).Alike R (s'.sleepTo instant) :=
  ⟨h.world, rfl, h.cancelAt, h.log, h.tickets⟩

theorem begin {q : Query} (h : s.Alike R s') (hw : Indistinguishable P R w w') (hq : P q) :
    (s.begin w q).2.Alike R (s'.begin w' q).2 where
  world := (hw q _ _ hq h.world).2
  now := h.now
  cancelAt := h.cancelAt
  log := by rw [Session.begin, Session.begin, h.log, h.now]
  tickets := h.tickets

theorem close (h : s.Alike R s') (wait : Wait α) : (s.close wait).Alike R (s'.close wait) := by
  rw [Session.close, Session.close]
  split
  · exact h.cancel
  · exact h

theorem await (h : s.Alike R s') (wake : Nat) (wait : Wait α) :
    (s.await wake wait).1 = (s'.await wake wait).1 ∧
      (s.await wake wait).2.Alike R (s'.await wake wait).2 := by
  have hslept := h.sleepTo (s.rouse wake)
  rw [Session.await, Session.await, ← h.rouse_eq, hslept.cancelled_eq]
  split
  · exact ⟨rfl, hslept⟩
  · exact ⟨rfl, hslept.close wait⟩

theorem perform {q : Query} (h : s.Alike R s') (hw : Indistinguishable P R w w') (hq : P q) :
    (s.perform w limit q).1 = (s'.perform w' limit q).1 ∧
      (s.perform w limit q).2.Alike R (s'.perform w' limit q).2 := by
  have hreply : (s.begin w q).1 = (s'.begin w' q).1 := (hw q _ _ hq h.world).1
  have hbegun := h.begin hw hq
  rw [Session.perform, Session.perform]
  dsimp only
  rw [hreply, hbegun.now]
  split
  · exact ⟨rfl, hbegun.close _⟩
  · exact hbegun.await _ _

end Session.Alike

theorem Process.run_alike {p : Process α} (hp : p.Asks P) (hw : Indistinguishable P R w w')
    (h : s.Alike R s') :
    (p.run w limit s).1 = (p.run w' limit s').1 ∧
      (p.run w limit s).2.Alike R (p.run w' limit s').2 := by
  induction hp generalizing s s' with
  | done | crash => exact ⟨rfl, h⟩
  | poll _ ih =>
    rw [run, run, h.cancelled_eq]
    exact ih _ h
  | @call q next hq _ ih =>
    obtain ⟨houtcome, hafter⟩ := h.perform hw hq
    rw [run_call, run_call, houtcome]
    cases (s'.perform w' limit q).1 with
    | value a => exact ih a hafter
    | panic t => exact ⟨rfl, hafter⟩

end Deliberation.Run
