import Deliberation.Proofs.Run.Exchange

namespace Deliberation.Run

variable {α β : Type} {limit : Nat} {c : Prop}

def read? (limit : Nat) (r : Reply α) (f : Except Failure α → Except Failure β) : Option β :=
  match ending limit r with
  | .value a => (f a).toOption
  | .panic _ => none

theorem read?_eq_some {r : Reply α} {f : Except Failure α → Except Failure β}
    {a : Except Failure α} {b : β} (ha : ending limit r = .value a) (hf : f a = .ok b) :
    read? limit r f = some b := by
  rw [read?, ha]
  dsimp only
  rw [hf, Except.toOption]

theorem ending_of_read? {r : Reply α} {f : Except Failure α → Except Failure β} {b : β}
    (h : read? limit r f = some b) : ∃ a, ending limit r = .value a ∧ f a = .ok b := by
  rw [read?] at h
  cases ha : ending limit r with
  | panic text =>
    rw [ha] at h
    cases h
  | value a =>
    rw [ha] at h
    dsimp only at h
    cases hf : f a with
    | error e =>
      rw [hf] at h
      cases h
    | ok b' =>
      rw [hf] at h
      cases h
      exact ⟨a, rfl, hf⟩

def Follows (Due : List Exchange → Query → Prop) : List Exchange → List Exchange → Prop
  | _, [] => True
  | past, e :: l => Due past e.query ∧ Follows Due (past ++ [e]) l

theorem Follows.due {Due : List Exchange → Query → Prop} {past before after : List Exchange}
    {e : Exchange} (h : Follows Due past (before ++ e :: after)) :
    Due (past ++ before) e.query := by
  induction before generalizing past with
  | nil =>
    rw [List.append_nil]
    exact h.1
  | cons f before ih =>
    rw [← List.singleton_append, ← List.append_assoc]
    exact ih h.2

theorem follows_done {Due : List Exchange → Query → Prop} {past l : List Exchange} {a : α}
    {o : Outcome α} (h : (Process.done a).Conducts limit c l o) : Follows Due past l := by
  obtain ⟨rfl, -⟩ := Process.conducts_done_iff.1 h
  trivial

def Single (limit : Nat) (c : Prop) (q : Query) (Fits : Exchange → Except Failure α → Prop)
    (p : Process (Except Failure α)) : Prop :=
  ∀ l o, p.Conducts limit c l o → (l = [] ∧ o = .value (.error .cancelled)) ∨
    ∃ r, l = [⟨q, r⟩] ∧ ∀ x, o = .value x → Fits ⟨q, r⟩ x

theorem single_call {q : Query} {g : Except Failure q.Answer → Except Failure α}
    {f : Except Failure α → Except Failure β} (hg : g (.error .cancelled) = .error .cancelled)
    (hf : f (.error .cancelled) = .error .cancelled) {read : Exchange → Option β}
    (hread : ∀ r, read ⟨q, r⟩ = read? limit r fun a => f (g a)) :
    Single limit c q (fun e x => ∀ y, f x = .ok y → read e = some y)
      (.guarded q fun a => .done (g a)) := by
  intro l o h
  cases h.guarded with
  | refused _ h =>
    cases h
    exact .inl ⟨rfl, congrArg _ hg⟩
  | lost _ _ h =>
    cases h
    refine .inr ⟨_, rfl, ?_⟩
    rintro _ ⟨⟩ y hy
    rw [hg, hf] at hy
    cases hy
  | answered ha h =>
    cases h
    refine .inr ⟨_, rfl, ?_⟩
    rintro _ ⟨⟩ y hy
    rw [hread, read?_eq_some ha hy]
  | panicked => exact .inr ⟨_, rfl, fun _ hx => nomatch hx⟩

theorem Single.follows {q : Query} {Fits : Exchange → Except Failure α → Prop}
    {p : Process (Except Failure α)} (hp : Single limit c q Fits p)
    {Due : List Exchange → Query → Prop} {past l : List Exchange} (hq : Due past q)
    {f : Except Failure α → Process β} {o : Outcome β} (h : (p.bind f).Conducts limit c l o)
    (hcancelled : ∀ l, (f (.error .cancelled)).Conducts limit c l o → l = [])
    (hnext : ∀ e x l, Fits e x → (f x).Conducts limit c l o → Follows Due (past ++ [e]) l) :
    Follows Due past l := by
  obtain ⟨x, m, n, rfl, hm, hn⟩ | ⟨text, rfl, hm⟩ := Process.conducts_bind h
  · obtain ⟨rfl, hx⟩ | ⟨r, rfl, hr⟩ := hp _ _ hm
    · cases hx
      rw [hcancelled n hn]
      trivial
    · exact ⟨hq, hnext _ x n (hr x rfl) hn⟩
  · obtain ⟨rfl, hx⟩ | ⟨r, rfl, -⟩ := hp _ _ hm
    · trivial
    · exact ⟨hq, trivial⟩

theorem Single.through {q : Query} {Fits : Exchange → Except Failure α → Prop}
    {p : Process (Except Failure α)} (hp : Single limit c q Fits p)
    {f : Except Failure α → Process β} {l : List Exchange} {b : β}
    (h : (p.bind f).Conducts limit c l (.value b))
    (hcancelled : ∀ l, ¬ (f (.error .cancelled)).Conducts limit c l (.value b)) :
    ∃ r x n, l = ⟨q, r⟩ :: n ∧ Fits ⟨q, r⟩ x ∧ (f x).Conducts limit c n (.value b) := by
  obtain ⟨x, m, n, rfl, hm, hn⟩ | ⟨text, hb, -⟩ := Process.conducts_bind h
  · obtain ⟨-, hx⟩ | ⟨r, rfl, hr⟩ := hp _ _ hm
    · cases hx
      exact absurd hn (hcancelled n)
    · exact ⟨r, x, n, rfl, hr x rfl, hn⟩
  · cases hb

def Calls (limit : Nat) (q : Query) (Fits : Exchange → Except Failure α → Prop)
    (p : Process (Except Failure α)) : Prop :=
  ∃ g : Except Failure q.Answer → Except Failure α, (p = .guarded q fun a => .done (g a)) ∧
    ∀ r a, ending limit r = .value a → Fits ⟨q, r⟩ (g a)

theorem Calls.answered {q : Query} {Fits : Exchange → Except Failure α → Prop}
    {p : Process (Except Failure α)} (hp : Calls limit q Fits p)
    {f : Except Failure α → Process β} {l : List Exchange} {o : Outcome β}
    (h : (p.bind f).Conducts limit False l o)
    (hl : ∀ e ∈ l, ∀ text, ending limit e.reply ≠ .panic text) :
    ∃ r x n, l = ⟨q, r⟩ :: n ∧ Fits ⟨q, r⟩ x ∧ (f x).Conducts limit False n o := by
  obtain ⟨g, rfl, hfits⟩ := hp
  change ((Process.guarded q _).bind f).Conducts limit False l o at h
  rw [Process.guarded_bind] at h
  cases h.guarded with
  | refused hc => exact hc.elim
  | lost hc => exact hc.elim
  | answered ha h => exact ⟨_, _, _, rfl, hfits _ _ ha, h⟩
  | panicked ht => exact absurd ht (hl _ List.mem_cons_self _)

end Deliberation.Run
