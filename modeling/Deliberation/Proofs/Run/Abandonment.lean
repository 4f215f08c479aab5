import Deliberation.Proofs.Run.Ends
import Deliberation.Proofs.Run.Exchange
import Deliberation.Proofs.Run.Footprint
import Deliberation.Proofs.Run.Guard

namespace Deliberation.Run

open Session

variable {σ α β γ : Type} {w : World σ} {limit : Nat} {s : Session σ} {P : Query → Prop}

def Process.abandoned : Process α → Outcome α
  | .done a => .value a
  | .crash t => .panic t
  | .poll next => (next true).abandoned
  | .call _ next => (next (.error .cancelled)).abandoned

def Program.abandoned : Program β α → Outcome α
  | .done a => .value a
  | .crash t => .panic t
  | .poll next => (next true).abandoned
  | .call _ next => (next (.error .cancelled)).abandoned
  | .fork ps next => (next (ps.filterMap fun p => p.abandoned.value?)).abandoned

def Stop.ofOutcome : Outcome α → Stop α
  | .value a => finished a
  | .panic t => crashed t

theorem Stop.result?_ofOutcome (o : Outcome α) : (ofOutcome o).result? = o.value? := by
  cases o <;> rfl

theorem Stop.turn?_ofOutcome (o : Outcome α) : (ofOutcome o).turn? s = none := by
  cases o <;> rfl

theorem Process.Guarded.abandons {p : Process α} (hp : p.Guarded) (h : s.cancelled = true) :
    p.advance w limit s = (.ofOutcome p.abandoned, s) := by
  induction hp with
  | done a => rfl
  | crash t => rfl
  | poll _ ih =>
    rw [Process.advance, h]
    exact ih true
  | guarded _ ih =>
    rw [Process.guarded, Process.advance, if_pos h]
    exact ih _

theorem startAll_abandoned {ps : List (Process β)} (hps : ∀ p ∈ ps, p.Guarded)
    (h : s.cancelled = true) :
    startAll w limit ps s = (ps.map fun p => .ofOutcome p.abandoned, s) := by
  induction ps with
  | nil => rfl
  | cons p ps ih =>
    obtain ⟨hp, hps⟩ := List.forall_mem_cons.1 hps
    simp only [startAll, hp.abandons h, ih hps, List.map_cons]

theorem runAll_abandoned {ps : List (Process β)} (hps : ∀ p ∈ ps, p.Guarded)
    (h : s.cancelled = true) :
    runAll w limit ps s = (ps.filterMap fun p => p.abandoned.value?, s) := by
  have hended : ∀ stop ∈ ps.map fun p : Process β => Stop.ofOutcome p.abandoned,
      stop.turn? s = none := by
    intro stop hm
    obtain ⟨p, -, rfl⟩ := List.mem_map.1 hm
    exact Stop.turn?_ofOutcome _
  have hresult : Stop.result? ∘ (fun p : Process β => Stop.ofOutcome p.abandoned) =
      fun p => p.abandoned.value? :=
    funext fun p => Stop.result?_ofOutcome _
  simp only [runAll, startAll_abandoned hps h, settle_ended hended, List.filterMap_map, hresult,
    List.append_nil]

theorem Program.Guarded.abandons {p : Program β α} (hp : p.Guarded) (h : s.cancelled = true) :
    p.run w limit s = (p.abandoned, s) := by
  induction hp with
  | done a => rfl
  | crash t => rfl
  | poll _ ih =>
    rw [Program.run, h]
    exact ih true
  | guarded _ ih =>
    rw [Program.guarded, Program.run, if_pos h]
    exact ih _
  | fork hps _ ih =>
    rw [Program.run, runAll_abandoned hps h]
    exact ih _

def Outcome.andThen (o : Outcome α) (f : α → Outcome β) : Outcome β :=
  match o with
  | .value a => f a
  | .panic t => .panic t

theorem Process.abandoned_bind (p : Process α) (f : α → Process β) :
    (p.bind f).abandoned = p.abandoned.andThen fun a => (f a).abandoned := by
  induction p with
  | done a => rfl
  | crash t => rfl
  | poll next ih => exact ih true
  | call q next ih => exact ih _

theorem Program.abandoned_bind (p : Program β α) (f : α → Program β γ) :
    (p.bind f).abandoned = p.abandoned.andThen fun a => (f a).abandoned := by
  induction p with
  | done a => rfl
  | crash t => rfl
  | poll next ih => exact ih true
  | call q next ih => exact ih _
  | fork ps next ih => exact ih _

theorem Process.abandoned_lift (p : Process α) :
    (Program.ofProcess p : Program β α).abandoned = p.abandoned := by
  induction p with
  | done a => rfl
  | crash t => rfl
  | poll next ih => exact ih true
  | call q next ih => exact ih _

/-- Wherever the process looks at the signal or begins a call, which is then such a one, it would
end so if the run were cancelled. It does not panic itself. -/
inductive Process.Heeds (P : Query → Prop) (C : Outcome α → Prop) : Process α → Prop
  | done (a : α) : Heeds P C (.done a)
  | poll {next : Bool → Process α} (hc : C (next true).abandoned) (hg : (next true).Guarded)
      (h : Heeds P C (next false)) : Heeds P C (.poll next)
  | guarded {q : Query} {next : Except Failure q.Answer → Process α} (hq : P q)
      (hc : C (next (.error .cancelled)).abandoned) (h : ∀ a, Heeds P C (next a)) :
      Heeds P C (.guarded q next)

inductive Program.Heeds (P : Query → Prop) (C : Outcome α → Prop) : Program β α → Prop
  | done (a : α) : Heeds P C (.done a)
  | poll {next : Bool → Program β α} (hc : C (next true).abandoned) (hg : (next true).Guarded)
      (h : Heeds P C (next false)) : Heeds P C (.poll next)
  | guarded {q : Query} {next : Except Failure q.Answer → Program β α} (hq : P q)
      (hc : C (next (.error .cancelled)).abandoned) (h : ∀ a, Heeds P C (next a)) :
      Heeds P C (.guarded q next)
  | fork {ps : List (Process β)} {next : List β → Program β α}
      (hps : ∀ p ∈ ps, p.Asks fun q => ¬ P q) (hg : ∀ p ∈ ps, p.Guarded)
      (hc : ∀ joined, C (next joined).abandoned) (h : ∀ joined, Heeds P C (next joined)) :
      Heeds P C (.fork ps next)

theorem Process.Heeds.all_guarded {C : Outcome α → Prop} {p : Process α} (hp : p.Heeds P C) :
    p.Guarded := by
  induction hp with
  | done a => exact .done a
  | poll _ hg _ ih => exact .poll (Bool.rec ih hg)
  | guarded _ _ _ ih => exact .guarded ih

theorem Program.Heeds.all_guarded {C : Outcome α → Prop} {p : Program β α} (hp : p.Heeds P C) :
    p.Guarded := by
  induction hp with
  | done a => exact .done a
  | poll _ hg _ ih => exact .poll (Bool.rec ih hg)
  | guarded _ _ _ ih => exact .guarded ih
  | fork _ hg _ _ ih => exact .fork hg ih

theorem Process.Heeds.bind {C : Outcome α → Prop} {D : Outcome β → Prop} {p : Process α}
    {f : α → Process β} (hp : p.Heeds P C) (hC : ∀ o, C o → D (o.andThen fun a => (f a).abandoned))
    (hf : ∀ a, (f a).Heeds P D) : (p.bind f).Heeds P D := by
  induction hp with
  | done a => exact hf a
  | poll hc hg _ ih =>
    exact .poll ((abandoned_bind _ f).symm ▸ hC _ hc) (hg.bind fun a => (hf a).all_guarded) ih
  | guarded hq hc _ ih =>
    rw [guarded_bind]
    exact .guarded hq ((abandoned_bind _ f).symm ▸ hC _ hc) ih

theorem Program.Heeds.bind {C : Outcome α → Prop} {D : Outcome γ → Prop} {p : Program β α}
    {f : α → Program β γ} (hp : p.Heeds P C)
    (hC : ∀ o, C o → D (o.andThen fun a => (f a).abandoned)) (hf : ∀ a, (f a).Heeds P D) :
    (p.bind f).Heeds P D := by
  induction hp with
  | done a => exact hf a
  | poll hc hg _ ih =>
    exact .poll ((abandoned_bind _ f).symm ▸ hC _ hc) (hg.bind fun a => (hf a).all_guarded) ih
  | guarded hq hc _ ih =>
    rw [guarded_bind]
    exact .guarded hq ((abandoned_bind _ f).symm ▸ hC _ hc) ih
  | fork hps hg hc _ ih =>
    exact .fork hps hg (fun joined => (abandoned_bind _ f).symm ▸ hC _ (hc joined)) ih

theorem Process.Heeds.lift {C : Outcome α → Prop} {p : Process α} (hp : p.Heeds P C) :
    (Program.ofProcess p : Program β α).Heeds P C := by
  induction hp with
  | done a => exact .done a
  | poll hc hg _ ih => exact .poll ((abandoned_lift _).symm ▸ hc) hg.lift ih
  | guarded hq hc _ ih =>
    rw [Program.ofProcess_guarded]
    exact .guarded hq ((abandoned_lift _).symm ▸ hc) ih

def Struck (w : World σ) (limit : Nat) (world : σ) (P : Query → Prop) (s : Session σ) : Prop :=
  ∃ e, (w.exchanges world s.queries).getLast? = some e ∧ P e.query ∧
    e.reply.cancels = some (min e.reply.delay limit)

theorem Reply.wait_struck {α : Type} {r : Reply α} (h : (r.wait limit).cancels = true) :
    (r.wait limit).outcome = .value (.error .cancelled) ∨
      r.cancels = some (min r.delay limit) := by
  rw [wait] at h ⊢
  cases hc : r.cancels with
  | none =>
    rw [hc] at h
    cases h
  | some c =>
    rw [hc] at h
    dsimp only at h ⊢
    split at h
    · next hlt =>
      rw [if_pos hlt]
      exact .inl rfl
    · exact .inr (congrArg some (eq_of_beq h))

theorem Session.cancels_of_close {wait : Wait α} (hs : s.cancelled = false)
    (hc : (s.close wait).cancelled = true) : wait.cancels = true := by
  rw [close] at hc
  split at hc
  · next h => exact h
  · exact absurd hc (Bool.eq_false_iff.1 hs)

theorem Session.perform_struck {q : Query} (hs : s.cancelled = false)
    (hc : (s.after w limit q).cancelled = true) :
    (s.perform w limit q).1 = .value (.error .cancelled) ∨
      (w.respond q s.world).1.cancels = some (min (w.respond q s.world).1.delay limit) := by
  have hbegun : (s.begin w q).2.cancelled = false := hs
  rw [after, perform] at hc
  rw [perform]
  dsimp only at hc ⊢
  split at hc
  · next hlength =>
    rw [if_pos hlength]
    exact Reply.wait_struck (cancels_of_close hbegun hc)
  · next hlength =>
    rw [if_neg hlength]
    rw [await] at hc ⊢
    split at hc
    · next hroused =>
      rw [if_pos hroused]
      exact .inl rfl
    · next hroused =>
      rw [if_neg hroused]
      exact Reply.wait_struck (cancels_of_close (Bool.eq_false_iff.2 hroused) hc)

theorem struck_after {world : σ} {q : Query} (hw : s.world = w.replay world s.queries) (hq : P q)
    (hr : (w.respond q s.world).1.cancels = some (min (w.respond q s.world).1.delay limit)) :
    Struck w limit world P (s.after w limit q) := by
  refine ⟨⟨q, (w.respond q s.world).1⟩, ?_, hq, hr⟩
  rw [queries_after, exchanges_append, ← hw]
  exact List.getLast?_concat

theorem Program.run_heeds {C : Outcome α → Prop} {p : Program β α} {world : σ} (hp : p.Heeds P C)
    (hs : s.cancelled = false) (hw : s.world = w.replay world s.queries)
    (hc : (p.run w limit s).2.cancelled = true) :
    C (p.run w limit s).1 ∨ Struck w limit world P (p.run w limit s).2 := by
  induction hp generalizing s with
  | done a => exact absurd hc (Bool.eq_false_iff.1 hs)
  | poll _ _ _ ih =>
    rw [run, hs] at hc ⊢
    exact ih hs hw hc
  | @guarded q next hq hcall h ih =>
    have hafter : (s.after w limit q).world = w.replay world (s.after w limit q).queries := by
      rw [world_after, queries_after, replay_append, ← hw]
      rfl
    rw [Program.guarded, run, hs, if_neg Bool.false_ne_true, run_call] at hc ⊢
    cases hcancelled : (s.after w limit q).cancelled with
    | false =>
      cases hend : (s.perform w limit q).1 with
      | value a =>
        rw [hend] at hc
        exact ih a hcancelled hafter hc
      | panic t =>
        rw [hend] at hc
        exact absurd hc (Bool.eq_false_iff.1 hcancelled)
    | true =>
      obtain hlost | hstruck := Session.perform_struck hs hcancelled
      · rw [hlost, resumed, (h _).all_guarded.abandons hcancelled]
        exact .inl hcall
      · cases (s.perform w limit q).1 with
        | value a =>
          rw [resumed, (h a).all_guarded.abandons hcancelled]
          exact .inr (struck_after hw hq hstruck)
        | panic t => exact .inr (struck_after hw hq hstruck)
  | @fork ps next _ _ hfork h ih =>
    rw [run] at hc ⊢
    dsimp only at hc ⊢
    cases hcancelled : (runAll w limit ps s).2.cancelled with
    | false => exact ih _ hcancelled (runAll_steady (replay_steady w world) ps hw) hc
    | true =>
      rw [(h _).all_guarded.abandons hcancelled]
      exact .inl (hfork _)

end Deliberation.Run
