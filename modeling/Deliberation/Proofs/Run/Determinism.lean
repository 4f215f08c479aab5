import Deliberation.Proofs.Run.Footprint
import Deliberation.Proofs.Run.Soundness

namespace Deliberation.Run

variable {σ α β : Type} {w : World σ} {limit : Nat} {P : Query → Prop} {e : Surroundings}

def World.Repeats (w : World σ) (P : Query → Prop) : Prop :=
  ∀ q, P q → ∀ x y, (w.respond q x).1.delay = (w.respond q y).1.delay ∧
    (w.respond q x).1.outcome = (w.respond q y).1.outcome

theorem repeats_of_unit (w : World Unit) : w.Repeats P :=
  fun _ _ _ _ => ⟨rfl, rfl⟩

def Surroundings.Gives (e : Surroundings) (q : Query) : Outcome (Except Failure q.Answer) → Prop
  | .value a => e.answers q a
  | .panic t => e.panics q t

structure Settled (e : Surroundings) (P : Query → Prop) : Prop where
  uncancelled : ¬ e.cancels
  unique : ∀ q, P q → ∀ o o', e.Gives q o → e.Gives q o' → o = o'

theorem settled_surroundings (hw : w.Repeats P) (limit : Nat) :
    Settled (w.surroundings limit False) P where
  uncancelled := id
  unique := by
    have hg (q : Query) (o : Outcome (Except Failure q.Answer))
        (h : (w.surroundings limit False).Gives q o) :
        ∃ x, ending limit (w.respond q x).1 = o := by
      cases o <;> exact h
    intro q hq o o' ho ho'
    obtain ⟨x, rfl⟩ := hg q o ho
    obtain ⟨y, rfl⟩ := hg q o' ho'
    obtain ⟨hdelay, houtcome⟩ := hw q hq x y
    rw [ending, ending, hdelay, houtcome]

theorem Process.ends_poll_false {next : Bool → Process α} {l : List Query} {o : Outcome α}
    (he : ¬ e.cancels) (h : (Process.poll next).Ends e l o) : (next false).Ends e l o := by
  obtain ⟨b, hb, h⟩ := ends_poll_iff.1 h
  rwa [Bool.eq_false_iff.2 fun hc => he (hb hc)] at h

theorem Process.ends_call_gives {q : Query} {next : Except Failure q.Answer → Process α}
    {l : List Query} {o : Outcome α} (he : ¬ e.cancels) (h : (Process.call q next).Ends e l o) :
    ∃ x m, e.Gives q x ∧ (match x with
      | .value a => (next a).Ends e m o
      | .panic t => o = .panic t) := by
  cases h with
  | lost hc => exact absurd hc he
  | answered ha h => exact ⟨.value _, _, ha, h⟩
  | panicked ht => exact ⟨.panic _, [], ht, rfl⟩

theorem Process.ends_unique (he : Settled e P) {p : Process α} (hp : p.Asks P)
    {l l' : List Query} {o o' : Outcome α} (h : p.Ends e l o) (h' : p.Ends e l' o') : o = o' := by
  induction hp generalizing l l' with
  | done a => rw [(ends_done_iff.1 h).2, (ends_done_iff.1 h').2]
  | crash t => rw [(ends_crash_iff.1 h).2, (ends_crash_iff.1 h').2]
  | poll _ ih =>
    exact ih false (ends_poll_false he.uncancelled h) (ends_poll_false he.uncancelled h')
  | call hq _ ih =>
    obtain ⟨x, m, hx, h⟩ := ends_call_gives he.uncancelled h
    obtain ⟨y, n, hy, h'⟩ := ends_call_gives he.uncancelled h'
    obtain rfl := he.unique _ hq x y hx hy
    cases x with
    | value a => exact ih a h h'
    | panic t => exact h.trans h'.symm

theorem Together.ends_unique (he : Settled e P) {ps : List (Process β)} (hps : ∀ p ∈ ps, p.Asks P)
    {l l' : List Query} {rs rs' : List (Option β)} (h : Together (Process.Ends e) ps l rs)
    (h' : Together (Process.Ends e) ps l' rs') : rs = rs' := by
  induction h generalizing l' rs' with
  | nil =>
    cases h'
    rfl
  | cons hp _ _ ih =>
    cases h' with
    | cons hp' h' _ =>
      obtain ⟨hasks, hps⟩ := List.forall_mem_cons.1 hps
      rw [Process.ends_unique he hasks hp hp', ih hps h']

end Deliberation.Run
