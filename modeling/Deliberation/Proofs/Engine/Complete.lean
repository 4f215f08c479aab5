import Deliberation.Engine.Team
import Deliberation.Proofs.Run.Soundness

namespace Deliberation.Engine

open Run

variable {e : Surroundings} {l : List Query}

def Team.unaided : Team :=
  ⟨.backend, .backend, .backend, .value [], recommended⟩

structure Steadfast (e : Surroundings) : Prop where
  uncancelled : ¬ e.cancels
  guarded : ∀ q, ¬ e.answers q (.error .cancelled)
  backend : ∀ r, ¬ e.answers (.complete r) (.ok (.error .cancelled))

theorem steadfast_surroundings {σ : Type} {w : World σ}
    (hw : ∀ r s, (w.respond (.complete r) s).1.outcome ≠ .value (.error .cancelled))
    (limit : Nat) : Steadfast (w.surroundings limit False) where
  uncancelled := id
  guarded := by
    rintro q ⟨s, h⟩
    exact ending_ne_cancelled _ h
  backend := by
    rintro r ⟨s, h⟩
    exact hw r s (ending_eq_ok h)

theorem steadfast_ofLog {σ : Type} {w : World σ}
    (hw : ∀ r s, (w.respond (.complete r) s).1.outcome ≠ .value (.error .cancelled))
    (limit : Nat) (world : σ) (l : List Query) :
    Steadfast (.ofLog limit (w.exchanges world l) False) where
  uncancelled := id
  guarded := by
    rintro q ⟨r, -, h⟩
    exact ending_ne_cancelled _ h
  backend := by
    rintro r ⟨reply, hm, h⟩
    obtain ⟨x, hx⟩ := reply_of_mem_exchanges hm
    obtain rfl : reply = (w.respond (.complete r) x).1 := hx
    exact hw r x (ending_eq_ok h)

theorem call_ends {α : Type} (he : ¬ e.cancels) {q : Query} {g : Except Failure q.Answer → α}
    {o : Outcome α} (h : (Process.guarded q fun a => .done (g a)).Ends e l o) :
    l = [q] ∧ ∀ x, o = .value x → ∃ a, e.answers q a ∧ x = g a := by
  cases h.guarded with
  | refused hc _ => exact absurd hc he
  | lost hc _ => exact absurd hc he
  | answered ha hd =>
    cases hd
    refine ⟨rfl, fun x hx => ⟨_, ha, ?_⟩⟩
    cases hx
    rfl
  | panicked ht => exact ⟨rfl, fun x hx => nomatch hx⟩

theorem complete_bind {α : Type} (r : Request) (f : Except Failure Completion → Process α) :
    (complete r).bind f = .guarded (.complete r) fun a => f (a.bind id) := by
  rw [complete, Process.guarded_bind]
  rfl

theorem complete_map {α : Type} (r : Request) (g : Except Failure Completion → α) :
    (do return g (← complete r)) = Process.guarded (.complete r) fun a => .done (g (a.bind id)) :=
  complete_bind r _

theorem complete_ends (he : ¬ e.cancels) {r : Request} {o : Outcome (Except Failure Completion)}
    (h : (complete r).Ends e l o) : l = [.complete r] :=
  (call_ends he h).1

theorem complete_uncancelled (he : Steadfast e) {r : Request} {x : Except Failure Completion}
    (h : (complete r).Ends e l (.value x)) : x ≠ .error .cancelled := by
  obtain ⟨a, ha, rfl⟩ := (call_ends he.uncancelled h).2 _ rfl
  intro hx
  cases a with
  | ok a =>
    obtain rfl : a = .error .cancelled := hx
    exact he.backend r ha
  | error f =>
    cases hx
    exact he.guarded _ ha

end Deliberation.Engine
