import Deliberation.Proofs.Run.Soundness

namespace Deliberation.Run

variable {σ α β γ ι : Type} {w : World σ} {limit : Nat} {e : Surroundings}

def completions (l : List Query) : Nat :=
  l.countP fun q => q.request?.isSome

@[simp]
theorem completions_nil : completions [] = 0 :=
  rfl

@[simp]
theorem completions_append (l m : List Query) :
    completions (l ++ m) = completions l + completions m := by
  simp [completions]

theorem completions_complete (r : Request) : completions [.complete r] = 1 :=
  rfl

theorem completions_perm {l m : List Query} (h : l.Perm m) : completions l = completions m :=
  h.countP_eq _

inductive Process.Spends : Nat → Process α → Prop
  | done (n : Nat) (a : α) : Spends n (.done a)
  | crash (n : Nat) (t : String) : Spends n (.crash t)
  | poll {n : Nat} {next : Bool → Process α} (h : ∀ b, Spends n (next b)) : Spends n (.poll next)
  | call {n m : Nat} {q : Query} {next : Except Failure q.Answer → Process α}
      (hn : completions [q] + m ≤ n) (h : ∀ a, Spends m (next a)) : Spends n (.call q next)

inductive Program.Spends : Nat → Program β α → Prop
  | done (n : Nat) (a : α) : Spends n (.done a)
  | crash (n : Nat) (t : String) : Spends n (.crash t)
  | poll {n : Nat} {next : Bool → Program β α} (h : ∀ b, Spends n (next b)) :
      Spends n (.poll next)
  | call {n m : Nat} {q : Query} {next : Except Failure q.Answer → Program β α}
      (hn : completions [q] + m ≤ n) (h : ∀ a, Spends m (next a)) : Spends n (.call q next)
  | fork {n m k : Nat} {ps : List (Process β)} {next : List β → Program β α}
      (hn : ps.length * k + m ≤ n) (hps : ∀ p ∈ ps, p.Spends k)
      (h : ∀ joined, Spends m (next joined)) : Spends n (.fork ps next)

namespace Process

theorem Spends.mono {n m : Nat} {p : Process α} (h : p.Spends m) (hn : m ≤ n) : p.Spends n := by
  induction h generalizing n with
  | done _ a => exact .done n a
  | crash _ t => exact .crash n t
  | poll _ ih => exact .poll fun b => ih b hn
  | call hm h _ => exact .call (Nat.le_trans hm hn) h

theorem Spends.bind {n m : Nat} {p : Process α} {f : α → Process β} (hp : p.Spends n)
    (hf : ∀ a, (f a).Spends m) : (p.bind f).Spends (n + m) := by
  induction hp with
  | done n a => exact (hf a).mono (Nat.le_add_left m n)
  | crash n t => exact .crash _ t
  | poll _ ih => exact .poll ih
  | @call n k q next hn _ ih =>
    have hle : completions [q] + (k + m) ≤ n + m := by omega
    exact .call hle ih

theorem Spends.guarded {n m : Nat} {q : Query} {next : Except Failure q.Answer → Process α}
    (hn : completions [q] + m ≤ n) (h : ∀ a, (next a).Spends m) :
    (Process.guarded q next).Spends n := by
  refine .poll fun cancelled => ?_
  cases cancelled with
  | true => exact (h _).mono (by omega)
  | false => exact .call hn h

theorem Spends.lift {n : Nat} {p : Process α} (hp : p.Spends n) :
    (Program.ofProcess p : Program β α).Spends n := by
  induction hp with
  | done n a => exact .done n a
  | crash n t => exact .crash n t
  | poll _ ih => exact .poll ih
  | call hn _ ih => exact .call hn ih

theorem Spends.completions_le {n : Nat} {p : Process α} (hp : p.Spends n) {l : List Query}
    {o : Outcome α} (h : p.Ends e l o) : completions l ≤ n := by
  induction hp generalizing l with
  | done n a =>
    cases h
    exact Nat.zero_le n
  | crash n t =>
    cases h
    exact Nat.zero_le n
  | poll _ ih =>
    cases h with
    | poll _ h => exact ih _ h
  | @call n m q next hn _ ih =>
    cases h with
    | lost _ h | answered _ h =>
      have hl := ih _ h
      calc completions (q :: _)
        _ = completions [q] + completions _ := completions_append [q] _
        _ ≤ completions [q] + m := Nat.add_le_add_left hl _
        _ ≤ n := hn
    | panicked _ => omega

end Process

theorem Together.completions_le {E : ι → List Query → Outcome β → Prop} {xs : List ι}
    {l : List Query} {rs : List (Option β)} {k : Nat} (h : Together E xs l rs)
    (hk : ∀ x ∈ xs, ∀ l o, E x l o → completions l ≤ k) : completions l ≤ xs.length * k := by
  induction h with
  | nil => simp
  | @cons x xs l l' m o rs hx _ hm ih =>
    have hfirst := hk x List.mem_cons_self l o hx
    have hrest := ih fun y hy => hk y (List.mem_cons_of_mem x hy)
    rw [completions_perm hm, completions_append, List.length_cons, Nat.succ_mul]
    omega

namespace Program

theorem Spends.mono {n m : Nat} {p : Program β α} (h : p.Spends m) (hn : m ≤ n) :
    p.Spends n := by
  induction h generalizing n with
  | done _ a => exact .done n a
  | crash _ t => exact .crash n t
  | poll _ ih => exact .poll fun b => ih b hn
  | call hm h _ => exact .call (Nat.le_trans hm hn) h
  | fork hm hps h _ => exact .fork (Nat.le_trans hm hn) hps h

theorem Spends.bind {n m : Nat} {p : Program β α} {f : α → Program β γ} (hp : p.Spends n)
    (hf : ∀ a, (f a).Spends m) : (p.bind f).Spends (n + m) := by
  induction hp with
  | done n a => exact (hf a).mono (Nat.le_add_left m n)
  | crash n t => exact .crash _ t
  | poll _ ih => exact .poll ih
  | @call n k q next hn _ ih =>
    have hle : completions [q] + (k + m) ≤ n + m := by omega
    exact .call hle ih
  | @fork n k j ps next hn hps _ ih =>
    have hle : ps.length * j + (k + m) ≤ n + m := by omega
    exact .fork hle hps ih

theorem Spends.completions_le {n : Nat} {p : Program β α} (hp : p.Spends n) {l : List Query}
    {o : Outcome α} (h : p.Ends e l o) : completions l ≤ n := by
  induction hp generalizing l with
  | done n a =>
    cases h
    exact Nat.zero_le n
  | crash n t =>
    cases h
    exact Nat.zero_le n
  | poll _ ih =>
    cases h with
    | poll _ h => exact ih _ h
  | @call n m q next hn _ ih =>
    cases h with
    | lost _ h | answered _ h =>
      have hl := ih _ h
      calc completions (q :: _)
        _ = completions [q] + completions _ := completions_append [q] _
        _ ≤ completions [q] + m := Nat.add_le_add_left hl _
        _ ≤ n := hn
    | panicked _ => omega
  | @fork n m k ps next hn hps _ ih =>
    cases h with
    | fork hw _ h =>
      have hworkers := hw.completions_le fun p hp l o h => (hps p hp).completions_le h
      have hrest := ih _ h
      rw [completions_append]
      omega

end Program

end Deliberation.Run
