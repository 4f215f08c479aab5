import Deliberation.Proofs.Run.Calm
import Deliberation.Proofs.Run.Ends
import Deliberation.Proofs.Run.Footprint
import Deliberation.Proofs.Run.Return

namespace Deliberation.Run

open Session

variable {σ α β γ : Type} {w : World σ} {limit : Nat} {s : Session σ} {P : Query → Prop}
  {answers : (q : Query) → Outcome q.Answer}

inductive Program.Asks (P : Query → Prop) : Program β α → Prop
  | done (a : α) : Asks P (.done a)
  | crash (t : String) : Asks P (.crash t)
  | poll {next : Bool → Program β α} (h : ∀ b, Asks P (next b)) : Asks P (.poll next)
  | call {q : Query} {next : Except Failure q.Answer → Program β α} (hq : P q)
      (h : ∀ a, Asks P (next a)) : Asks P (.call q next)
  | fork {ps : List (Process β)} {next : List β → Program β α} (hps : ∀ p ∈ ps, p.Asks P)
      (h : ∀ joined, Asks P (next joined)) : Asks P (.fork ps next)

theorem Program.Asks.bind {p : Program β α} {f : α → Program β γ} (hp : p.Asks P)
    (hf : ∀ a, (f a).Asks P) : (p.bind f).Asks P := by
  induction hp with
  | done a => exact hf a
  | crash t => exact .crash t
  | poll _ ih => exact .poll ih
  | call hq _ ih => exact .call hq ih
  | fork hps _ ih => exact .fork hps ih

theorem Process.Asks.lift {p : Process α} (hp : p.Asks P) :
    (Program.ofProcess p : Program β α).Asks P := by
  induction hp with
  | done a => exact .done a
  | crash t => exact .crash t
  | poll _ ih => exact .poll ih
  | call hq _ ih => exact .call hq ih

def Stop.Asks (P : Query → Prop) : Stop α → Prop
  | asleep q next _ _ _ => P q ∧ ∀ a, (next a).Asks P
  | _ => True

def Process.eval (answers : (q : Query) → Outcome q.Answer) : Process α → Outcome α
  | .done a => .value a
  | .crash t => .panic t
  | .poll next => (next false).eval answers
  | .call q next =>
    match answers q with
    | .value a => (next (.ok a)).eval answers
    | .panic t => .panic t

def Program.eval (answers : (q : Query) → Outcome q.Answer) : Program β α → Outcome α
  | .done a => .value a
  | .crash t => .panic t
  | .poll next => (next false).eval answers
  | .call q next =>
    match answers q with
    | .value a => (next (.ok a)).eval answers
    | .panic t => .panic t
  | .fork ps next => (next (ps.filterMap fun p => (p.eval answers).value?)).eval answers

def Stop.eval (answers : (q : Query) → Outcome q.Answer) : Stop α → Outcome α
  | finished a => .value a
  | crashed t => .panic t
  | asleep q next _ _ _ => (Process.call q next).eval answers

theorem Process.eval_call (q : Query) (next : Except Failure q.Answer → Process α) :
    (call q next).eval answers = (resumed next ((answers q).map .ok)).eval answers := by
  rw [eval]
  cases answers q <;> rfl

theorem Program.eval_call (q : Query) (next : Except Failure q.Answer → Program β α) :
    (call q next).eval answers = (resumed next ((answers q).map .ok)).eval answers := by
  rw [eval]
  cases answers q <;> rfl

theorem Process.Returns.eval {V : α → Prop} {p : Process α} (hp : p.Returns V) {a : α}
    (h : p.eval answers = .value a) : V a := by
  induction hp with
  | done ha =>
    cases h
    exact ha
  | crash t => cases h
  | poll _ ih => exact ih false h
  | @call q next _ ih =>
    rw [eval_call] at h
    cases hq : answers q with
    | value b =>
      rw [hq] at h
      exact ih _ h
    | panic t =>
      rw [hq] at h
      cases h

theorem returned_eval {β : Type} {ids : List Nat} {ps : List (Process (Nat × β))}
    (answers : (q : Query) → Outcome q.Answer) (h : Numbered ids ps) :
    Returned ids (ps.filterMap fun p => (p.eval answers).value?) := by
  refine List.Sublist.subperm ?_
  induction h with
  | nil => exact .slnil
  | @cons id p ids ps hp _ ih =>
    rw [List.filterMap_cons]
    cases hv : p.eval answers with
    | panic t => exact ih.cons _
    | value y =>
      obtain rfl : y.1 = id := hp.eval hv
      exact ih.cons_cons _

structure World.Answers (w : World σ) (P : Query → Prop) (answers : (q : Query) → Outcome q.Answer)
    (limit : Nat) : Prop where
  calm : ∀ q x, P q → (w.respond q x).1.cancels = none
  prompt : ∀ q x, P q → (w.respond q x).1.delay ≤ limit
  answered : ∀ q x, P q → (w.respond q x).1.outcome = answers q

theorem World.Answers.ending_eq (hw : w.Answers P answers limit) {q : Query} (hq : P q) (x : σ) :
    ending limit (w.respond q x).1 = (answers q).map .ok := by
  rw [ending, if_pos (hw.prompt q x hq), hw.answered q x hq]
  cases answers q <;> rfl

theorem World.Answers.wait_eq (hw : w.Answers P answers limit) {q : Query} (hq : P q) (x : σ) :
    (w.respond q x).1.wait limit =
      ⟨min (w.respond q x).1.delay limit, false, (answers q).map .ok⟩ := by
  rw [Reply.wait, hw.calm q x hq, ← hw.ending_eq hq x]

theorem Session.not_cancelled (h : s.cancelAt = none) : s.cancelled = false := by
  rw [Session.cancelled, h, due]

theorem Session.await_uncancelled (h : s.cancelAt = none) (wake : Nat) {wait : Wait α}
    (hwait : wait.cancels = false) :
    s.await wake wait = (wait.outcome, s.sleepTo (s.rouse wake)) := by
  have hs : (s.sleepTo (s.rouse wake)).cancelled = false := not_cancelled h
  simp only [await, hs, close, hwait, Bool.false_eq_true, ↓reduceIte]

section Answers

variable (hw : w.Answers P answers limit)
include hw

theorem Session.perform_eval {q : Query} (hq : P q) (h : s.cancelAt = none) :
    (s.perform w limit q).1 = (answers q).map .ok ∧ (s.perform w limit q).2.cancelAt = none := by
  have hwait := hw.wait_eq hq s.world
  rw [perform]
  dsimp only [begin]
  rw [hwait]
  split
  · exact ⟨rfl, h⟩
  · rw [await_uncancelled (by exact h) _ rfl]
    exact ⟨rfl, h⟩

theorem Process.advance_eval {p : Process α} (hp : p.Asks P) (h : s.cancelAt = none) :
    (p.advance w limit s).1.eval answers = p.eval answers ∧ (p.advance w limit s).1.Asks P ∧
      (p.advance w limit s).2.cancelAt = none := by
  induction hp generalizing s with
  | done a => exact ⟨rfl, trivial, h⟩
  | crash t => exact ⟨rfl, trivial, h⟩
  | poll _ ih =>
    rw [advance, not_cancelled h]
    exact ih false h
  | @call q next hq hnext ih =>
    have hwait := hw.wait_eq hq s.world
    rw [advance_call]
    dsimp only [begin]
    rw [hwait]
    -- whether the call sleeps or not, it will have been answered alike
    split
    · rw [eval_call]
      cases answers q with
      | value a => exact ih (.ok a) h
      | panic t => exact ⟨rfl, trivial, h⟩
    · exact ⟨rfl, ⟨hq, hnext⟩, h⟩

theorem Stop.resume_eval {stop : Stop α} (hs : stop.Pending w limit s.now) (hp : stop.Asks P)
    (h : s.cancelAt = none) :
    (stop.resume w limit s).1.eval answers = stop.eval answers ∧
      (stop.resume w limit s).1.Asks P ∧ (stop.resume w limit s).2.cancelAt = none := by
  cases hs with
  | finished a => exact ⟨rfl, trivial, h⟩
  | crashed t => exact ⟨rfl, trivial, h⟩
  | @asleep q next wake ticket x hlength hwake =>
    rw [resume_asleep, hw.wait_eq hp.1, await_uncancelled h _ rfl, eval, Process.eval_call]
    cases answers q with
    | value a => exact Process.advance_eval hw (hp.2 _) h
    | panic t => exact ⟨rfl, trivial, h⟩

theorem startAll_eval {ps : List (Process β)} (hps : ∀ p ∈ ps, p.Asks P) (h : s.cancelAt = none) :
    (startAll w limit ps s).1.map (Stop.eval answers) = ps.map (Process.eval answers) ∧
      (∀ stop ∈ (startAll w limit ps s).1, stop.Asks P) ∧
      (startAll w limit ps s).2.cancelAt = none := by
  induction ps generalizing s with
  | nil => exact ⟨rfl, List.forall_mem_nil _, h⟩
  | cons p ps ih =>
    obtain ⟨hp, hps⟩ := List.forall_mem_cons.1 hps
    obtain ⟨heval, hasks, hs⟩ := Process.advance_eval hw hp h
    obtain ⟨hevals, hall, hs⟩ := ih hps hs
    refine ⟨?_, List.forall_mem_cons.2 ⟨hasks, hall⟩, hs⟩
    rw [startAll, List.map_cons, List.map_cons, heval]
    exact congrArg _ hevals

theorem settle_eval {stops : List (Stop β)} (ha : Ahead w limit s.now stops)
    (hp : ∀ stop ∈ stops, stop.Asks P) (h : s.cancelAt = none) :
    (settle w limit stops s).stops.map Stop.result? =
        stops.map (fun stop => (stop.eval answers).value?) ∧
      (settle w limit stops s).session.cancelAt = none := by
  refine settle_induction (P := fun stops s out => (∀ stop ∈ stops, stop.Asks P) →
    s.cancelAt = none → out.stops.map Stop.result? =
        stops.map (fun stop => (stop.eval answers).value?) ∧
      out.session.cancelAt = none) ?_ ?_ stops s ha hp h
  · intro stops s hended _ h
    refine ⟨List.map_congr_left fun stop hm => ?_, h⟩
    cases stop with
    | finished a => rfl
    | crashed t => rfl
    | asleep q next wake ticket wait => cases hended _ hm
  · intro turn pre stop post s out _ ha ih hp h
    obtain ⟨hpre, hp⟩ := List.forall_mem_append.1 hp
    obtain ⟨hstop, hpost⟩ := List.forall_mem_cons.1 hp
    obtain ⟨heval, hasks, hs⟩ := Stop.resume_eval hw (ha stop (by simp)) hstop h
    have hall := List.forall_mem_append.2 ⟨hpre, List.forall_mem_cons.2 ⟨hasks, hpost⟩⟩
    obtain ⟨hout, hs⟩ := ih hall hs
    refine ⟨?_, hs⟩
    rw [hout, List.map_append, List.map_append, List.map_cons, List.map_cons, heval]

theorem runAll_eval {ps : List (Process β)} (hps : ∀ p ∈ ps, p.Asks P) (h : s.cancelAt = none) :
    (runAll w limit ps s).1.Perm (ps.filterMap fun p => (p.eval answers).value?) ∧
      (runAll w limit ps s).2.cancelAt = none := by
  obtain ⟨heval, hasks, hs⟩ := startAll_eval hw hps h
  obtain ⟨hresults, hs⟩ := settle_eval hw (ahead_startAll ps s) hasks hs
  have hps := congrArg (List.map Outcome.value?) heval
  rw [List.map_map, List.map_map] at hps
  refine ⟨(runAll_perm w limit ps s).trans ?_, hs⟩
  rw [results]
  dsimp only
  rw [hresults.trans hps, List.filterMap_map]
  rfl

theorem Program.run_eval {β : Type} {p : Program (Nat × β) α} (hp : p.Asks P) (ho : p.Orderly)
    (h : s.cancelAt = none) : (p.run w limit s).1 = p.eval answers := by
  induction ho generalizing s with
  | done a => rfl
  | crash t => rfl
  | poll _ ih =>
    cases hp with
    | poll hnext =>
      rw [run, not_cancelled h]
      exact ih false (hnext _) h
  | @call q next _ ih =>
    cases hp with
    | call hq hnext =>
      obtain ⟨houtcome, hs⟩ := Session.perform_eval hw hq h
      rw [run_call, eval_call, houtcome]
      cases answers q with
      | value a => exact ih (.ok a) (hnext _) hs
      | panic t => rfl
  | fork hids hnumbered hnext _ ih =>
    cases hp with
    | fork hps hasks =>
      obtain ⟨hjoined, hs⟩ := runAll_eval hw hps h
      have hreturned := returned_eval answers hnumbered
      rw [run, eval]
      dsimp only
      rw [hnext _ _ hjoined.symm hreturned]
      exact ih _ (hreturned.perm hjoined) (hasks _) hs

end Answers

end Deliberation.Run
