import Deliberation.Proofs.Run.Call

namespace Deliberation.Run

variable {σ α β : Type} {Good : α → Prop}

/-- The second process goes on as the first one does, and may go on otherwise only where the first
one ends with a value that is not good. -/
inductive Process.Upheld (Good : α → Prop) : Process α → Process α → Prop
  | done (a : α) : Upheld Good (.done a) (.done a)
  | crash (t : String) : Upheld Good (.crash t) (.crash t)
  | lapsed {a : α} (ha : ¬ Good a) (p : Process α) : Upheld Good (.done a) p
  | poll {next next' : Bool → Process α} (h : ∀ b, Upheld Good (next b) (next' b)) :
      Upheld Good (.poll next) (.poll next')
  | call {q : Query} {next next' : Except Failure q.Answer → Process α}
      (h : ∀ a, Upheld Good (next a) (next' a)) : Upheld Good (.call q next) (.call q next')

namespace Process.Upheld

theorem after (p : Process β) {f f' : β → Process α} (hf : ∀ b, (f b).Upheld Good (f' b)) :
    (p.bind f).Upheld Good (p.bind f') := by
  induction p with
  | done b => exact hf b
  | crash t => exact .crash t
  | poll next ih => exact .poll ih
  | call q next ih => exact .call ih

theorem map {Good' : β → Prop} {p p' : Process α} (hp : p.Upheld Good p') {g : α → β}
    (hg : ∀ a, Good' (g a) → Good a) :
    (p.bind fun a => .done (g a)).Upheld Good' (p'.bind fun a => .done (g a)) := by
  induction hp with
  | done a => exact .done _
  | crash t => exact .crash t
  | lapsed ha p => exact .lapsed (fun h => ha (hg _ h)) _
  | poll _ ih => exact .poll ih
  | call _ ih => exact .call ih

theorem run_eq {p p' : Process α} (hp : p.Upheld Good p') {w : World σ} {limit : Nat}
    {s s' : Session σ} {a : α} (h : p.run w limit s = (.value a, s')) (ha : Good a) :
    p'.run w limit s = (.value a, s') := by
  induction hp generalizing s with
  | done => exact h
  | crash => exact h
  | lapsed hb p =>
    cases h
    exact absurd ha hb
  | poll _ ih => exact ih _ h
  | @call q next next' _ ih =>
    rw [run_call] at h ⊢
    cases he : (s.perform w limit q).1 with
    | value b =>
      rw [he] at h
      exact ih b h
    | panic t =>
      rw [he] at h
      cases h

end Process.Upheld

end Deliberation.Run
