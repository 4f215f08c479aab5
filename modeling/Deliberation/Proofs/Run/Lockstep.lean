import Deliberation.Proofs.Run.Synchrony

namespace Deliberation.Run

variable {σ α β : Type} {Mild : (q : Query) → q.Answer → Prop} {Idle : β → Prop}

def Soothes (Mild : (q : Query) → q.Answer → Prop) (w w' : World σ) : Prop :=
  ∀ q x, w'.respond q x = w.respond q x ∨ ∃ cancels delay text a y,
    w.respond q x = (⟨cancels, delay, .panic text⟩, y) ∧
      w'.respond q x = (⟨cancels, delay, .value a⟩, y) ∧ Mild q a

inductive Soothed (Mild : (q : Query) → q.Answer → Prop) (q : Query) :
    Outcome (Except Failure q.Answer) → Outcome (Except Failure q.Answer) → Prop
  | same (e : Outcome (Except Failure q.Answer)) : Soothed Mild q e e
  | mild (text : String) {a : q.Answer} (ha : Mild q a) :
      Soothed Mild q (.panic text) (.value (.ok a))

inductive Process.Tolerates (Mild : (q : Query) → q.Answer → Prop) (Idle : β → Prop) :
    Process β → Prop
  | done (b : β) : Tolerates Mild Idle (.done b)
  | crash (t : String) : Tolerates Mild Idle (.crash t)
  | poll {next : Bool → Process β} (h : ∀ b, Tolerates Mild Idle (next b)) :
      Tolerates Mild Idle (.poll next)
  | call {q : Query} {next : Except Failure q.Answer → Process β}
      (h : ∀ a, Tolerates Mild Idle (next a))
      (hm : ∀ a, Mild q a → ∃ b, next (.ok a) = .done b ∧ Idle b) :
      Tolerates Mild Idle (.call q next)

theorem Process.Tolerates.guarded {q : Query} {next : Except Failure q.Answer → Process β}
    (h : ∀ a, (next a).Tolerates Mild Idle)
    (hm : ∀ a, Mild q a → ∃ b, next (.ok a) = .done b ∧ Idle b) :
    (Process.guarded q next).Tolerates Mild Idle := by
  refine .poll fun cancelled => ?_
  cases cancelled with
  | true => exact h _
  | false => exact .call h hm

def Idler (Idle : β → Prop) (r r' : Option β) : Prop :=
  r = r' ∨ r = none ∧ ∃ b, r' = some b ∧ Idle b

def Idles (Idle : β → Prop) (o o' : Outcome β) : Prop :=
  o' = o ∨ ∃ text b, o = .panic text ∧ o' = .value b ∧ Idle b

theorem Contribute.idler {r r' : Option β} (h : Contribute (Idles Idle) r r') :
    Idler Idle r r' := by
  obtain ⟨o, _, rfl | ⟨text, b, rfl, rfl, hb⟩, rfl, rfl⟩ := h
  · exact .inl rfl
  · exact .inr ⟨rfl, b, rfl, hb⟩

variable {w w' : World σ}

theorem Soothes.corresponds (hw : Soothes Mild w w') (limit : Nat) :
    Corresponds (Soothed Mild) limit w w' := by
  intro q x
  obtain h | ⟨cancels, delay, text, a, y, h, h', ha⟩ := hw q x
  · rw [h]
    exact ⟨rfl, rfl, rfl, .same _⟩
  · rw [h, h']
    refine ⟨rfl, rfl, rfl, ?_⟩
    rw [ending, ending]
    split
    · exact .mild text ha
    · exact .same _

theorem Process.Tolerates.parallel {p : Process β} (hp : p.Tolerates Mild Idle) :
    p.Parallel (Soothed Mild) (Idles Idle) p := by
  induction hp with
  | done b => exact .done (.inl rfl)
  | crash t => exact .crash (.inl rfl)
  | poll _ ih => exact .poll ih
  | call _ hm ih =>
    refine .call (ih _) fun o o' ho => ?_
    cases ho with
    | same =>
      cases o with
      | value a => exact ih a
      | panic t => exact .crash (.inl rfl)
    | mild text ha =>
      obtain ⟨b, hb, hidle⟩ := hm _ ha
      rw [resumed, resumed, hb]
      exact .recovers (.inr ⟨text, b, rfl, rfl, hidle⟩)

/-- Workers tolerate mild answers, the program itself is never given one, and it goes on alike
whether workers idle or are not heard of. -/
inductive Program.Tolerates (Mild : (q : Query) → q.Answer → Prop) (Idle : β → Prop) :
    Program β α → Prop
  | done (a : α) : Tolerates Mild Idle (.done a)
  | crash (t : String) : Tolerates Mild Idle (.crash t)
  | poll {next : Bool → Program β α} (h : ∀ b, Tolerates Mild Idle (next b)) :
      Tolerates Mild Idle (.poll next)
  | call {q : Query} {next : Except Failure q.Answer → Program β α} (hq : ∀ a, ¬ Mild q a)
      (h : ∀ a, Tolerates Mild Idle (next a)) : Tolerates Mild Idle (.call q next)
  | fork {ps : List (Process β)} {next : List β → Program β α}
      (hps : ∀ p ∈ ps, p.Tolerates Mild Idle)
      (hnext : ∀ l l', Abreast (Idler Idle) l l' → next l' = next l)
      (h : ∀ l, Tolerates Mild Idle (next l)) : Tolerates Mild Idle (.fork ps next)

namespace Program.Tolerates

variable {γ : Type}

theorem guarded {q : Query} {next : Except Failure q.Answer → Program β α} (hq : ∀ a, ¬ Mild q a)
    (h : ∀ a, (next a).Tolerates Mild Idle) : (Program.guarded q next).Tolerates Mild Idle := by
  refine .poll fun cancelled => ?_
  cases cancelled with
  | true => exact h _
  | false => exact .call hq h

theorem bind {p : Program β α} {f : α → Program β γ} (hp : p.Tolerates Mild Idle)
    (hf : ∀ a, (f a).Tolerates Mild Idle) : (p.bind f).Tolerates Mild Idle := by
  induction hp with
  | done a => exact hf a
  | crash t => exact .crash t
  | poll _ ih => exact .poll ih
  | call hq _ ih => exact .call hq ih
  | fork hps hnext _ ih =>
    exact .fork hps (fun l l' h => congrArg (Program.bind · f) (hnext l l' h)) ih

theorem parallel {p : Program β α} (hp : p.Tolerates Mild Idle) :
    p.Parallel (Soothed Mild) (Idles Idle) p := by
  induction hp with
  | done a => exact .done a
  | crash t => exact .crash t
  | poll _ ih => exact .poll ih
  | call hq _ ih =>
    refine .call (ih _) fun o o' ho => ?_
    cases ho with
    | same =>
      cases o with
      | value a => exact ih a
      | panic t => exact .crash t
    | mild text ha => exact absurd ha (hq _)
  | fork hps hnext _ ih =>
    refine .fork (List.forall₂_same.2 fun p hp => (hps p hp).parallel) fun l l' h => ?_
    rw [hnext l l' (h.imp fun _ _ hr => hr.idler)]
    exact ih l

theorem run_eq {p : Program β α} (hp : p.Tolerates Mild Idle) (hw : Soothes Mild w w')
    (limit : Nat) (s : Session σ) : p.run w' limit s = p.run w limit s :=
  hp.parallel.run_eq (hw.corresponds limit) s

end Program.Tolerates

end Deliberation.Run
