import Deliberation.Run.Program

namespace Deliberation.Run

structure Surroundings where
  answers : (q : Query) → Except Failure q.Answer → Prop
  panics : Query → String → Prop
  cancels : Prop

variable {α β γ ι κ : Type} {e : Surroundings}

inductive Process.Ends (e : Surroundings) : Process α → List Query → Outcome α → Prop
  | done (a : α) : Ends e (.done a) [] (.value a)
  | crash (t : String) : Ends e (.crash t) [] (.panic t)
  | poll {next : Bool → Process α} {b : Bool} {l : List Query} {o : Outcome α}
      (hb : b = true → e.cancels) (h : Ends e (next b) l o) : Ends e (.poll next) l o
  | lost {q : Query} {next : Except Failure q.Answer → Process α} {l : List Query}
      {o : Outcome α} (hc : e.cancels) (h : Ends e (next (.error .cancelled)) l o) :
      Ends e (.call q next) (q :: l) o
  | answered {q : Query} {next : Except Failure q.Answer → Process α} {l : List Query}
      {o : Outcome α} {a : Except Failure q.Answer} (ha : e.answers q a)
      (h : Ends e (next a) l o) : Ends e (.call q next) (q :: l) o
  | panicked {q : Query} {next : Except Failure q.Answer → Process α} {t : String}
      (ht : e.panics q t) : Ends e (.call q next) [q] (.panic t)

def Outcome.value? : Outcome α → Option α
  | value a => some a
  | panic _ => none

inductive Together (E : ι → List Query → Outcome β → Prop) :
    List ι → List Query → List (Option β) → Prop
  | nil : Together E [] [] []
  | cons {x : ι} {xs : List ι} {l l' m : List Query} {o : Outcome β} {rs : List (Option β)}
      (hx : E x l o) (h : Together E xs l' rs) (hm : m.Perm (l ++ l')) :
      Together E (x :: xs) m (o.value? :: rs)

namespace Together

open scoped List

variable {E : ι → List Query → Outcome β → Prop} {xs : List ι} {m : List Query}
  {rs : List (Option β)}

theorem of_map {g : κ → ι} {ys : List κ} (h : Together E (ys.map g) m rs) :
    Together (fun y => E (g y)) ys m rs := by
  induction ys generalizing m rs with
  | nil =>
    cases h
    exact .nil
  | cons y ys ih =>
    cases h with
    | cons hx h hm => exact .cons hx (ih h) hm

theorem exists_of_mem (h : Together E xs m rs) {b : β} (hb : some b ∈ rs) :
    ∃ x ∈ xs, ∃ l, E x l (.value b) := by
  induction h with
  | nil => cases hb
  | @cons x xs l l' m o rs hx _ _ ih =>
    rcases List.mem_cons.1 hb with hb | hb
    · cases o with
      | value a =>
        cases hb
        exact ⟨x, List.mem_cons_self, l, hx⟩
      | panic t => cases hb
    · obtain ⟨y, hy, hvalue⟩ := ih hb
      exact ⟨y, List.mem_cons_of_mem _ hy, hvalue⟩

theorem perm_heads (h : Together E xs m rs) {f : ι → Query} {P : Query → Prop}
    (hE : ∀ x ∈ xs, ∀ l o, E x l o → ∃ rest, l = f x :: rest ∧ ∀ q ∈ rest, P q) :
    ∃ others, m.Perm (xs.map f ++ others) ∧ ∀ q ∈ others, P q := by
  induction h with
  | nil => exact ⟨[], .refl _, fun _ hq => nomatch hq⟩
  | @cons x xs l l' m o rs hx h hm ih =>
    obtain ⟨rest, rfl, hrest⟩ := hE _ List.mem_cons_self _ _ hx
    obtain ⟨others, hp, hothers⟩ := ih fun y hy => hE y (List.mem_cons_of_mem _ hy)
    refine ⟨rest ++ others, ?_, fun q hq => ?_⟩
    · refine hm.trans (.cons _ ?_)
      calc rest ++ l'
        _ ~ rest ++ (xs.map f ++ others) := hp.append_left rest
        _ ~ xs.map f ++ (rest ++ others) := by
          rw [← List.append_assoc, ← List.append_assoc]
          exact List.perm_append_comm.append_right others
    · exact (List.mem_append.1 hq).elim (hrest q) (hothers q)

end Together

inductive Program.Ends (e : Surroundings) : Program β α → List Query → Outcome α → Prop
  | done (a : α) : Ends e (.done a) [] (.value a)
  | crash (t : String) : Ends e (.crash t) [] (.panic t)
  | poll {next : Bool → Program β α} {b : Bool} {l : List Query} {o : Outcome α}
      (hb : b = true → e.cancels) (h : Ends e (next b) l o) : Ends e (.poll next) l o
  | lost {q : Query} {next : Except Failure q.Answer → Program β α} {l : List Query}
      {o : Outcome α} (hc : e.cancels) (h : Ends e (next (.error .cancelled)) l o) :
      Ends e (.call q next) (q :: l) o
  | answered {q : Query} {next : Except Failure q.Answer → Program β α} {l : List Query}
      {o : Outcome α} {a : Except Failure q.Answer} (ha : e.answers q a)
      (h : Ends e (next a) l o) : Ends e (.call q next) (q :: l) o
  | panicked {q : Query} {next : Except Failure q.Answer → Program β α} {t : String}
      (ht : e.panics q t) : Ends e (.call q next) [q] (.panic t)
  | fork {ps : List (Process β)} {next : List β → Program β α} {l m : List Query}
      {o : Outcome α} {rs : List (Option β)} {joined : List β}
      (hw : Together (Process.Ends e) ps l rs) (hj : joined.Perm (rs.filterMap id))
      (h : Ends e (next joined) m o) : Ends e (.fork ps next) (l ++ m) o

inductive Process.GuardEnds (e : Surroundings) (q : Query)
    (next : Except Failure q.Answer → Process α) : List Query → Outcome α → Prop
  | refused {l : List Query} {o : Outcome α} (hc : e.cancels)
      (h : (next (.error .cancelled)).Ends e l o) : GuardEnds e q next l o
  | lost {l : List Query} {o : Outcome α} (hc : e.cancels)
      (h : (next (.error .cancelled)).Ends e l o) : GuardEnds e q next (q :: l) o
  | answered {l : List Query} {o : Outcome α} {a : Except Failure q.Answer} (ha : e.answers q a)
      (h : (next a).Ends e l o) : GuardEnds e q next (q :: l) o
  | panicked {t : String} (ht : e.panics q t) : GuardEnds e q next [q] (.panic t)

namespace Process

theorem ends_done_iff {a : α} {l : List Query} {o : Outcome α} :
    (done a).Ends e l o ↔ l = [] ∧ o = .value a := by
  constructor
  · intro h
    cases h
    exact ⟨rfl, rfl⟩
  · rintro ⟨rfl, rfl⟩
    exact .done a

theorem ends_crash_iff {t : String} {l : List Query} {o : Outcome α} :
    (crash t).Ends e l o ↔ l = [] ∧ o = .panic t := by
  constructor
  · intro h
    cases h
    exact ⟨rfl, rfl⟩
  · rintro ⟨rfl, rfl⟩
    exact .crash t

theorem ends_poll_iff {next : Bool → Process α} {l : List Query} {o : Outcome α} :
    (poll next).Ends e l o ↔ ∃ b, (b = true → e.cancels) ∧ (next b).Ends e l o := by
  constructor
  · intro h
    cases h with
    | poll hb h => exact ⟨_, hb, h⟩
  · rintro ⟨b, hb, h⟩
    exact .poll hb h

theorem ends_bind {p : Process α} {f : α → Process β} {l : List Query} {o : Outcome β}
    (h : (p.bind f).Ends e l o) :
    (∃ a m n, l = m ++ n ∧ p.Ends e m (.value a) ∧ (f a).Ends e n o) ∨
      ∃ t, o = .panic t ∧ p.Ends e l (.panic t) := by
  induction p generalizing l with
  | done a => exact .inl ⟨a, [], l, rfl, .done a, h⟩
  | crash t =>
    obtain ⟨rfl, rfl⟩ := ends_crash_iff.1 h
    exact .inr ⟨t, rfl, .crash t⟩
  | poll next ih =>
    obtain ⟨b, hb, h⟩ := ends_poll_iff.1 h
    rcases ih b h with ⟨a, m, n, rfl, hp, hf⟩ | ⟨t, rfl, hp⟩
    · exact .inl ⟨a, m, n, rfl, .poll hb hp, hf⟩
    · exact .inr ⟨t, rfl, .poll hb hp⟩
  | call q next ih =>
    cases h with
    | lost hc h =>
      rcases ih _ h with ⟨a, m, n, rfl, hp, hf⟩ | ⟨t, rfl, hp⟩
      · exact .inl ⟨a, q :: m, n, rfl, .lost hc hp, hf⟩
      · exact .inr ⟨t, rfl, .lost hc hp⟩
    | answered ha h =>
      rcases ih _ h with ⟨a, m, n, rfl, hp, hf⟩ | ⟨t, rfl, hp⟩
      · exact .inl ⟨a, q :: m, n, rfl, .answered ha hp, hf⟩
      · exact .inr ⟨t, rfl, .answered ha hp⟩
    | panicked ht => exact .inr ⟨_, rfl, .panicked ht⟩

theorem Ends.guarded {q : Query} {next : Except Failure q.Answer → Process α} {l : List Query}
    {o : Outcome α} (h : (guarded q next).Ends e l o) : GuardEnds e q next l o := by
  obtain ⟨b, hb, h⟩ := ends_poll_iff.1 h
  cases b with
  | true => exact .refused (hb rfl) h
  | false =>
    cases h with
    | lost hc h => exact .lost hc h
    | answered ha h => exact .answered ha h
    | panicked ht => exact .panicked ht

inductive Unbroken : Process α → Prop
  | done (a : α) : Unbroken (.done a)
  | poll {next : Bool → Process α} (h : ∀ b, Unbroken (next b)) : Unbroken (.poll next)
  | call {q : Query} {next : Except Failure q.Answer → Process α} (h : ∀ a, Unbroken (next a)) :
      Unbroken (.call q next)

namespace Unbroken

theorem bind {p : Process α} {f : α → Process β} (hp : p.Unbroken) (hf : ∀ a, (f a).Unbroken) :
    (p.bind f).Unbroken := by
  induction hp with
  | done a => exact hf a
  | poll _ ih => exact .poll ih
  | call _ ih => exact .call ih

theorem guarded {q : Query} {next : Except Failure q.Answer → Process α}
    (h : ∀ a, (next a).Unbroken) : (Process.guarded q next).Unbroken := by
  refine .poll fun cancelled => ?_
  cases cancelled with
  | true => exact h _
  | false => exact .call h

theorem panics {p : Process α} (hp : p.Unbroken) {l : List Query} {t : String}
    (h : p.Ends e l (.panic t)) : ∃ q ∈ l, e.panics q t := by
  induction hp generalizing l with
  | done a => cases h
  | poll _ ih =>
    cases h with
    | poll _ h => exact ih _ h
  | call _ ih =>
    cases h with
    | lost _ h | answered _ h =>
      obtain ⟨q, hq, ht⟩ := ih _ h
      exact ⟨q, List.mem_cons_of_mem _ hq, ht⟩
    | panicked ht => exact ⟨_, List.mem_cons_self, ht⟩

end Unbroken

theorem ends_bind_value {p : Process α} {f : α → Process β} {l : List Query} {b : β}
    (h : (p.bind f).Ends e l (.value b)) :
    ∃ a m n, l = m ++ n ∧ p.Ends e m (.value a) ∧ (f a).Ends e n (.value b) := by
  rcases ends_bind h with h | ⟨t, ht, _⟩
  · exact h
  · cases ht

end Process

namespace Program

theorem ends_done_iff {a : α} {l : List Query} {o : Outcome α} :
    (done a : Program β α).Ends e l o ↔ l = [] ∧ o = .value a := by
  constructor
  · intro h
    cases h
    exact ⟨rfl, rfl⟩
  · rintro ⟨rfl, rfl⟩
    exact .done a

theorem ends_bind {p : Program β α} {f : α → Program β γ} {l : List Query} {o : Outcome γ}
    (h : (p.bind f).Ends e l o) :
    (∃ a m n, l = m ++ n ∧ p.Ends e m (.value a) ∧ (f a).Ends e n o) ∨
      ∃ t, o = .panic t ∧ p.Ends e l (.panic t) := by
  induction p generalizing l with
  | done a => exact .inl ⟨a, [], l, rfl, .done a, h⟩
  | crash t =>
    cases h
    exact .inr ⟨t, rfl, .crash t⟩
  | poll next ih =>
    cases h with
    | poll hb h =>
      rcases ih _ h with ⟨a, m, n, rfl, hp, hf⟩ | ⟨t, rfl, hp⟩
      · exact .inl ⟨a, m, n, rfl, .poll hb hp, hf⟩
      · exact .inr ⟨t, rfl, .poll hb hp⟩
  | call q next ih =>
    cases h with
    | lost hc h =>
      rcases ih _ h with ⟨a, m, n, rfl, hp, hf⟩ | ⟨t, rfl, hp⟩
      · exact .inl ⟨a, q :: m, n, rfl, .lost hc hp, hf⟩
      · exact .inr ⟨t, rfl, .lost hc hp⟩
    | answered ha h =>
      rcases ih _ h with ⟨a, m, n, rfl, hp, hf⟩ | ⟨t, rfl, hp⟩
      · exact .inl ⟨a, q :: m, n, rfl, .answered ha hp, hf⟩
      · exact .inr ⟨t, rfl, .answered ha hp⟩
    | panicked ht => exact .inr ⟨_, rfl, .panicked ht⟩
  | fork ps next ih =>
    cases h with
    | fork hw hj h =>
      rcases ih _ h with ⟨a, m, n, rfl, hp, hf⟩ | ⟨t, rfl, hp⟩
      · exact .inl ⟨a, _, n, (List.append_assoc _ _ _).symm, .fork hw hj hp, hf⟩
      · exact .inr ⟨t, rfl, .fork hw hj hp⟩

theorem ends_bind_value {p : Program β α} {f : α → Program β γ} {l : List Query} {c : γ}
    (h : (p.bind f).Ends e l (.value c)) :
    ∃ a m n, l = m ++ n ∧ p.Ends e m (.value a) ∧ (f a).Ends e n (.value c) := by
  rcases ends_bind h with h | ⟨t, ht, _⟩
  · exact h
  · cases ht

theorem ends_ofProcess {p : Process α} {l : List Query} {o : Outcome α}
    (h : (ofProcess p : Program β α).Ends e l o) : p.Ends e l o := by
  induction p generalizing l with
  | done a =>
    cases h
    exact .done a
  | crash t =>
    cases h
    exact .crash t
  | poll next ih =>
    cases h with
    | poll hb h => exact .poll hb (ih _ h)
  | call q next ih =>
    cases h with
    | lost hc h => exact .lost hc (ih _ h)
    | answered ha h => exact .answered ha (ih _ h)
    | panicked ht => exact .panicked ht

theorem ends_cancelled_bind {f : Bool → Program β α} {l : List Query} {o : Outcome α}
    (h : ((ofProcess Process.cancelled).bind f).Ends e l o) :
    ∃ b, (b = true → e.cancels) ∧ (f b).Ends e l o := by
  cases h with
  | poll hb h => exact ⟨_, hb, h⟩

theorem ends_together_bind {ps : List (Process β)} {f : List β → Program β α}
    {l : List Query} {o : Outcome α} (h : ((together ps).bind f).Ends e l o) :
    ∃ rs joined m n, l = m ++ n ∧ Together (Process.Ends e) ps m rs ∧
      joined.Perm (rs.filterMap id) ∧ (f joined).Ends e n o := by
  cases h with
  | fork hw hj h => exact ⟨_, _, _, _, rfl, hw, hj, h⟩

end Program

end Deliberation.Run
