import Deliberation.Run.Program

namespace Deliberation.Run

variable {σ α β : Type} {w : World σ} {limit : Nat} {s s' : Session σ}

theorem due_mono {c : Option Nat} {m n : Nat} (hmn : m ≤ n) (h : due c m = true) :
    due c n = true := by
  cases c with
  | none => exact h
  | some c => exact decide_eq_true (Nat.le_trans (of_decide_eq_true h) hmn)

theorem Reply.length_wait_le (limit : Nat) (r : Reply α) : (r.wait limit).length ≤ min r.delay limit := by
  rw [wait]
  split
  · exact Nat.le_refl _
  · split
    · next hlt => exact Nat.le_of_lt hlt
    · exact Nat.le_refl _

theorem Reply.cancels_of_wait {r : Reply α} (h : (r.wait limit).cancels = true) :
    ∃ c, r.cancels = some c := by
  cases hc : r.cancels with
  | none =>
    rw [wait, hc] at h
    cases h
  | some c => exact ⟨c, rfl⟩

namespace Session

theorem le_rouse {wake : Nat} (h : s.now ≤ wake) : s.now ≤ s.rouse wake := by
  rw [rouse]
  split
  · split
    · exact Nat.le_max_left _ _
    · exact h
  · exact h

theorem rouse_le {wake : Nat} (h : s.now ≤ wake) : s.rouse wake ≤ wake := by
  rw [rouse]
  split
  · split
    · next hc => exact Nat.max_le.2 ⟨h, hc⟩
    · exact Nat.le_refl _
  · exact Nat.le_refl _

theorem due_cancel {n : Nat} (h : due s.cancelAt n = true) : due s.cancel.cancelAt n = true := by
  cases hc : s.cancelAt with
  | none => simp [due, hc] at h
  | some c =>
    have hn : c ≤ n := by simpa [due, hc] using h
    have hm : (s.cancelAt.getD s.now).min s.now ≤ c := by
      rw [hc]
      exact Nat.min_le_left _ _
    exact decide_eq_true (Nat.le_trans hm hn)

theorem calls_begin (q : Query) (s : Session σ) :
    (s.begin w q).2.calls = s.calls ++ [⟨s.now, q⟩] :=
  List.filterMap_append

theorem calls_cancel (s : Session σ) : s.cancel.calls = s.calls :=
  List.filterMap_append.trans (List.append_nil _)

theorem now_close (wait : Wait α) (s : Session σ) : (s.close wait).now = s.now := by
  rw [close]
  split <;> rfl

theorem calls_close (wait : Wait α) (s : Session σ) : (s.close wait).calls = s.calls := by
  rw [close]
  split
  · exact calls_cancel s
  · rfl

theorem world_close (wait : Wait α) (s : Session σ) : (s.close wait).world = s.world := by
  rw [close]
  split <;> rfl

theorem now_await (wake : Nat) (wait : Wait α) (s : Session σ) :
    (s.await wake wait).2.now = s.rouse wake := by
  rw [await]
  split
  · rfl
  · exact now_close wait _

theorem calls_await (wake : Nat) (wait : Wait α) (s : Session σ) :
    (s.await wake wait).2.calls = s.calls := by
  rw [await]
  split
  · rfl
  · exact calls_close wait _

theorem world_await (wake : Nat) (wait : Wait α) (s : Session σ) :
    (s.await wake wait).2.world = s.world := by
  rw [await]
  split
  · rfl
  · exact world_close wait _

structure Steady (w : World σ) (I : Session σ → Prop) : Prop where
  begin : ∀ {s}, I s → ∀ q, I (s.begin w q).2
  cancel : ∀ {s} {q x c}, (w.respond q x).1.cancels = some c → I s → I s.cancel
  sleepTo : ∀ {s}, I s → ∀ {t}, s.now ≤ t → I (s.sleepTo t)
  ticket : ∀ {s}, I s → I { s with tickets := s.tickets + 1 }

namespace Steady

variable {I : Session σ → Prop}

theorem close (hI : Steady w I) {q : Query} {x : σ} (hs : I s) :
    I (s.close ((w.respond q x).1.wait limit)) := by
  rw [Session.close]
  split
  · next h =>
    obtain ⟨c, hc⟩ := Reply.cancels_of_wait h
    exact hI.cancel hc hs
  · exact hs

theorem await (hI : Steady w I) {wake : Nat} (hle : s.now ≤ wake) {q : Query} {x : σ}
    (hs : I s) : I (s.await wake ((w.respond q x).1.wait limit)).2 := by
  have hslept : I (s.sleepTo (s.rouse wake)) := hI.sleepTo hs (le_rouse hle)
  rw [Session.await]
  split
  · exact hslept
  · exact hI.close hslept

theorem perform (hI : Steady w I) (q : Query) (hs : I s) : I (s.perform w limit q).2 := by
  have hbegun : I (s.begin w q).2 := hI.begin hs q
  rw [Session.perform]
  dsimp only
  split
  · exact hI.close hbegun
  · exact hI.await (Nat.le_add_right _ _) hbegun

end Steady

end Session

open Session

def Process.resumed (next : Except Failure α → Process β) : Outcome (Except Failure α) → Process β
  | .value a => next a
  | .panic t => crash t

theorem Process.run_call (q : Query) (next : Except Failure q.Answer → Process α) (s : Session σ) :
    (call q next).run w limit s =
      (resumed next (s.perform w limit q).1).run w limit (s.perform w limit q).2 := by
  rw [run]
  generalize s.perform w limit q = ended
  obtain ⟨o, s⟩ := ended
  cases o <;> rfl

theorem Process.advance_call (q : Query) (next : Except Failure q.Answer → Process α)
    (s : Session σ) :
    (call q next).advance w limit s =
      let wait := (s.begin w q).1.wait limit
      let s := (s.begin w q).2
      if wait.length = 0 then (resumed next wait.outcome).advance w limit (s.close wait)
      else
        (.asleep q next (s.now + wait.length) s.tickets wait,
          { s with tickets := s.tickets + 1 }) := by
  rw [advance]
  dsimp only
  split
  · cases ((s.begin w q).1.wait limit).outcome <;> rfl
  · rfl

theorem Stop.resume_asleep (q : Query) (next : Except Failure q.Answer → Process β)
    (wake ticket : Nat) (wait : Wait q.Answer) (s : Session σ) :
    (asleep q next wake ticket wait).resume w limit s =
      (Process.resumed next (s.await wake wait).1).advance w limit (s.await wake wait).2 := by
  rw [resume]
  generalize s.await wake wait = ended
  obtain ⟨o, s⟩ := ended
  cases o <;> rfl

variable {I : Session σ → Prop}

theorem Process.run_steady (hI : Steady w I) (p : Process α) (hs : I s) :
    I (p.run w limit s).2 := by
  induction p generalizing s with
  | done a => exact hs
  | crash t => exact hs
  | poll next ih => exact ih _ hs
  | call q next ih =>
    have hafter : I (s.perform w limit q).2 := hI.perform q hs
    rw [run_call]
    cases (s.perform w limit q).1 with
    | value a => exact ih a hafter
    | panic t => exact hafter

theorem Process.advance_steady (hI : Steady w I) (p : Process β) (hs : I s) :
    I (p.advance w limit s).2 := by
  induction p generalizing s with
  | done a => exact hs
  | crash t => exact hs
  | poll next ih => exact ih _ hs
  | call q next ih =>
    have hbegun : I (s.begin w q).2 := hI.begin hs q
    rw [advance_call]
    dsimp only
    split
    · have hclosed : I ((s.begin w q).2.close ((s.begin w q).1.wait limit)) := hI.close hbegun
      cases ((s.begin w q).1.wait limit).outcome with
      | value a => exact ih a hclosed
      | panic t => exact hclosed
    · exact hI.ticket hbegun

end Deliberation.Run
