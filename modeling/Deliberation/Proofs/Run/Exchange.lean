import Deliberation.Proofs.Run.Call

namespace Deliberation.Run

open Session

variable {σ α β : Type} {w : World σ} {limit : Nat} {c : Prop}

structure Exchange where
  query : Query
  reply : Reply query.Answer

def World.exchanges (w : World σ) : σ → List Query → List Exchange
  | _, [] => []
  | x, q :: qs => ⟨q, (w.respond q x).1⟩ :: w.exchanges (w.respond q x).2 qs

theorem query_exchanges (x : σ) (qs : List Query) :
    (w.exchanges x qs).map Exchange.query = qs := by
  induction qs generalizing x with
  | nil => rfl
  | cons q qs ih => exact congrArg (q :: ·) (ih _)

theorem query_mem_of_mem_exchanges {x : σ} {qs : List Query} {e : Exchange}
    (h : e ∈ w.exchanges x qs) : e.query ∈ qs :=
  query_exchanges x qs ▸ List.mem_map_of_mem h

theorem reply_of_mem_exchanges {x : σ} {qs : List Query} {e : Exchange}
    (h : e ∈ w.exchanges x qs) : ∃ y, e.reply = (w.respond e.query y).1 := by
  induction qs generalizing x with
  | nil => cases h
  | cons q qs ih =>
    rcases List.mem_cons.1 h with rfl | h
    · exact ⟨x, rfl⟩
    · exact ih h

def World.replay (w : World σ) : σ → List Query → σ
  | x, [] => x
  | x, q :: qs => w.replay (w.respond q x).2 qs

theorem replay_append (x : σ) (ps qs : List Query) :
    w.replay x (ps ++ qs) = w.replay (w.replay x ps) qs := by
  induction ps generalizing x with
  | nil => rfl
  | cons p ps ih => exact ih _

theorem exchanges_append (x : σ) (ps qs : List Query) :
    w.exchanges x (ps ++ qs) = w.exchanges x ps ++ w.exchanges (w.replay x ps) qs := by
  induction ps generalizing x with
  | nil => rfl
  | cons p ps ih => exact congrArg (_ :: ·) (ih _)

theorem replay_steady (w : World σ) (x : σ) : Steady w fun s => s.world = w.replay x s.queries where
  begin := by
    intro s hs q
    rw [queries_begin, replay_append, ← hs]
    rfl
  cancel := by
    intro s _ _ _ _ hs
    rwa [queries, calls_cancel]
  sleepTo := fun h _ _ => h
  ticket := fun h => h

inductive Process.Conducts (limit : Nat) (c : Prop) : Process α → List Exchange → Outcome α → Prop
  | done (a : α) : Conducts limit c (.done a) [] (.value a)
  | crash (t : String) : Conducts limit c (.crash t) [] (.panic t)
  | poll {next : Bool → Process α} {b : Bool} {l : List Exchange} {o : Outcome α}
      (hb : b = true → c) (h : Conducts limit c (next b) l o) : Conducts limit c (.poll next) l o
  | lost {q : Query} {next : Except Failure q.Answer → Process α} {l : List Exchange}
      {o : Outcome α} {r : Reply q.Answer} (hc : c) (hr : 0 < r.delay)
      (h : Conducts limit c (next (.error .cancelled)) l o) :
      Conducts limit c (.call q next) (⟨q, r⟩ :: l) o
  | answered {q : Query} {next : Except Failure q.Answer → Process α} {l : List Exchange}
      {o : Outcome α} {r : Reply q.Answer} {a : Except Failure q.Answer}
      (ha : ending limit r = .value a) (h : Conducts limit c (next a) l o) :
      Conducts limit c (.call q next) (⟨q, r⟩ :: l) o
  | panicked {q : Query} {next : Except Failure q.Answer → Process α} {r : Reply q.Answer}
      {t : String} (ht : ending limit r = .panic t) :
      Conducts limit c (.call q next) [⟨q, r⟩] (.panic t)

inductive Process.GuardConducts (limit : Nat) (c : Prop) (q : Query)
    (next : Except Failure q.Answer → Process α) : List Exchange → Outcome α → Prop
  | refused {l : List Exchange} {o : Outcome α} (hc : c)
      (h : (next (.error .cancelled)).Conducts limit c l o) : GuardConducts limit c q next l o
  | lost {l : List Exchange} {o : Outcome α} {r : Reply q.Answer} (hc : c) (hr : 0 < r.delay)
      (h : (next (.error .cancelled)).Conducts limit c l o) :
      GuardConducts limit c q next (⟨q, r⟩ :: l) o
  | answered {l : List Exchange} {o : Outcome α} {r : Reply q.Answer}
      {a : Except Failure q.Answer} (ha : ending limit r = .value a)
      (h : (next a).Conducts limit c l o) : GuardConducts limit c q next (⟨q, r⟩ :: l) o
  | panicked {r : Reply q.Answer} {t : String} (ht : ending limit r = .panic t) :
      GuardConducts limit c q next [⟨q, r⟩] (.panic t)

namespace Process

theorem conducts_done_iff {a : α} {l : List Exchange} {o : Outcome α} :
    (done a).Conducts limit c l o ↔ l = [] ∧ o = .value a := by
  constructor
  · intro h
    cases h
    exact ⟨rfl, rfl⟩
  · rintro ⟨rfl, rfl⟩
    exact .done a

theorem conducts_bind {p : Process α} {f : α → Process β} {l : List Exchange} {o : Outcome β}
    (h : (p.bind f).Conducts limit c l o) :
    (∃ a m n, l = m ++ n ∧ p.Conducts limit c m (.value a) ∧ (f a).Conducts limit c n o) ∨
      ∃ t, o = .panic t ∧ p.Conducts limit c l (.panic t) := by
  induction p generalizing l with
  | done a => exact .inl ⟨a, [], l, rfl, .done a, h⟩
  | crash t =>
    cases h
    exact .inr ⟨t, rfl, .crash t⟩
  | poll next ih =>
    cases h with
    | poll hb h =>
      obtain ⟨a, m, n, rfl, hp, hf⟩ | ⟨t, rfl, hp⟩ := ih _ h
      · exact .inl ⟨a, m, n, rfl, .poll hb hp, hf⟩
      · exact .inr ⟨t, rfl, .poll hb hp⟩
  | call q next ih =>
    cases h with
    | lost hc hr h =>
      obtain ⟨a, m, n, rfl, hp, hf⟩ | ⟨t, rfl, hp⟩ := ih _ h
      · exact .inl ⟨a, _ :: m, n, rfl, .lost hc hr hp, hf⟩
      · exact .inr ⟨t, rfl, .lost hc hr hp⟩
    | answered ha h =>
      obtain ⟨a, m, n, rfl, hp, hf⟩ | ⟨t, rfl, hp⟩ := ih _ h
      · exact .inl ⟨a, _ :: m, n, rfl, .answered ha hp, hf⟩
      · exact .inr ⟨t, rfl, .answered ha hp⟩
    | panicked ht => exact .inr ⟨_, rfl, .panicked ht⟩

theorem Conducts.guarded {q : Query} {next : Except Failure q.Answer → Process α}
    {l : List Exchange} {o : Outcome α} (h : (guarded q next).Conducts limit c l o) :
    GuardConducts limit c q next l o := by
  cases h with
  | @poll _ b _ _ hb h =>
    cases b with
    | true => exact .refused (hb rfl) h
    | false =>
      cases h with
      | lost hc hr h => exact .lost hc hr h
      | answered ha h => exact .answered ha h
      | panicked ht => exact .panicked ht

theorem run_conducts (p : Process α) (s : Session σ)
    (hc : (p.run w limit s).2.cancelled = true → c) :
    ∃ l, (p.run w limit s).2.queries = s.queries ++ l ∧
      p.Conducts limit c (w.exchanges s.world l) (p.run w limit s).1 := by
  induction p generalizing s with
  | done a => exact ⟨[], (List.append_nil _).symm, .done a⟩
  | crash t => exact ⟨[], (List.append_nil _).symm, .crash t⟩
  | poll next ih =>
    obtain ⟨l, hl, h⟩ := ih _ s hc
    exact ⟨l, hl, .poll (fun hb => hc (run_steady (cancelled_steady w) _ hb)) h⟩
  | call q next ih =>
    have hq : ∀ l, (s.after w limit q).queries ++ l = s.queries ++ q :: l := by
      simp [queries_after]
    have hw : (s.after w limit q).world = (w.respond q s.world).2 := world_after q s
    have hend := s.perform_ends w limit q
    rw [run_call] at hc ⊢
    cases he : (s.perform w limit q).1 with
    | value a =>
      rw [he] at hc hend
      obtain ⟨l, hl, h⟩ := ih a (s.after w limit q) hc
      rw [hw] at h
      refine ⟨q :: l, hl.trans (hq l), ?_⟩
      cases hend with
      | itself ha => exact .answered ha h
      | lost hcancelled hr =>
        exact .lost (hc (run_steady (cancelled_steady w) _ hcancelled)) hr h
    | panic t =>
      rw [he] at hend
      cases hend with
      | itself ht => exact ⟨[q], queries_after q s, .panicked ht⟩

end Process

end Deliberation.Run
