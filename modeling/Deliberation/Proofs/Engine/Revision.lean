import Deliberation.Proofs.Engine.Recollection
import Deliberation.Proofs.Outcome.Sound
import Deliberation.Proofs.Run.Calm

namespace Deliberation.Engine.Reflexive

open Run Reflection

variable {team : Team} {t : Task} {limit bound left i n : Nat} {l : List Exchange} {α : Type}

def Withdrawn (limit : Nat) : Exchange → Prop
  | ⟨.complete _, r⟩ => ending limit r = .value (.ok (.error .cancelled))
  | ⟨.attempt _ _, r⟩ => ending limit r = .value (.ok (.error .cancelled))
  | _ => False

def refusal? (limit : Nat) : Exchange → Option Failure
  | ⟨.complete _, r⟩ =>
    match ending limit r with
    | .value (.error e) => some e
    | .value (.ok (.error e)) => some e
    | _ => none
  | _ => none

structure Tried (limit : Nat) (team : Team) (t : Task) (a b : Exchange) (text : String)
    (v : Validation) : Prop where
  attempt : ∃ m, a.query = attemptQuery team t m
  output : attempted? limit a = some text
  check : b.query = checkQuery team t text
  verdict : checked? limit b = some v

def Criticises (t : Task) (k : Exchange) : Prop :=
  ∃ m, k.query = .complete (critiqueRequest t m)

structure Round.Failed (limit : Nat) (team : Team) (t : Task) (r : Round) : Prop where
  tried : ∃ text v, Tried limit team t r.attempted r.checked text v ∧ v.passed = false
  criticises : Criticises t r.criticised
  critique : ∃ words, criticised? limit r.criticised = some words

def stages (i : Nat) : List Stage :=
  .act :: (List.replicate i [.critique, .act]).flatten

inductive Ending (limit : Nat) (team : Team) (t : Task) (n i : Nat) :
    List Exchange → Result → Prop
  | passed {a b : Exchange} {text : String} {v : Validation} {r : Result} (hi : i < n)
      (tried : Tried limit team t a b text v) (passed : v.passed = true)
      (succeeded : r.succeeded = true) (answer : r.finalAnswer = text)
      (confidence : r.confidence = v.score.elim 0.9 Number.normalize)
      (trace : r.trace.steps.map Step.stage = stages i) : Ending limit team t n i [a, b] r
  | exhausted {a b : Exchange} {text : String} {v : Validation} {r : Result} (hi : i + 1 = n)
      (tried : Tried limit team t a b text v) (failed : v.passed = false)
      (unsuccessful : r.succeeded = false) (answer : r.finalAnswer = text)
      (confidence : r.confidence = 0.3)
      (trace : r.trace.steps.map Step.stage = stages i ++ [.halt]) :
      Ending limit team t n i [a, b] r
  | uncriticised {a b k : Exchange} {text : String} {v : Validation} {f : Failure} {r : Result}
      (hi : i + 1 < n) (tried : Tried limit team t a b text v) (failed : v.passed = false)
      (criticises : Criticises t k) (refused : refusal? limit k = some f)
      (aborted : f.isBackendFailure = true →
        r.succeeded = false ∧ r.finalAnswer = text ∧ r.confidence = 0 ∧
          r.trace.steps.map Step.stage = stages i ++ [.halt]) :
      Ending limit team t n i [a, b, k] r

theorem output_eq_ok {x : Except Failure String} (h : x ≠ .error .cancelled) :
    ∃ text, output x = .ok text := by
  match x with
  | .ok text => exact ⟨text, rfl⟩
  | .error .cancelled => exact absurd rfl h
  | .error (.backend _) | .error (.timeout _) | .error (.tool _ _) | .error (.parse _ _)
  | .error (.exhausted _ _) | .error (.validation _ _) => exact ⟨_, rfl⟩

theorem validation_eq_ok {x : Except Failure Validation} (h : x ≠ .error .cancelled) :
    ∃ v, validation x = .ok v := by
  match x with
  | .ok v => exact ⟨v, rfl⟩
  | .error .cancelled => exact absurd rfl h
  | .error (.backend _) | .error (.timeout _) | .error (.tool _ _) | .error (.parse _ _)
  | .error (.exhausted _ _) | .error (.validation _ _) => exact ⟨_, rfl⟩

theorem attempt_calls (team : Team) (t : Task) (m : Memory) :
    Calls limit (attemptQuery team t m)
      (fun e x => (x = .error .cancelled → Withdrawn limit e) ∧
        ∀ text, output x = .ok text → attempted? limit e = some text) (attempt team t m) := by
  rw [attempt, attemptQuery]
  cases team.attempter with
  | backend =>
    refine ⟨fun a => (a.bind id).map Completion.text, complete_map _ _, fun r a ha => ⟨fun hx => ?_, ?_⟩⟩
    · cases a with
      | ok b =>
        cases b with
        | ok c => cases hx
        | error f =>
          cases hx
          exact ha
      | error f =>
        cases hx
        exact absurd ha (ending_ne_cancelled r)
    · exact fun text hx => read?_eq_some ha hx
  | external =>
    refine ⟨fun a => a.bind id, rfl, fun r a ha => ⟨fun hx => ?_, ?_⟩⟩
    · cases a with
      | ok b =>
        obtain rfl : b = .error .cancelled := hx
        exact ha
      | error f =>
        cases hx
        exact absurd ha (ending_ne_cancelled r)
    · exact fun text hx => read?_eq_some ha hx

theorem check_calls (team : Team) (t : Task) (text : String) :
    Calls limit (checkQuery team t text) (fun e x => ∃ v, x = .ok v ∧ checked? limit e = some v)
      (check team t text) := by
  rw [check, checkQuery]
  cases team.validator with
  | backend =>
    refine ⟨fun a => validation (a.map graded), rfl, fun r a ha => ?_⟩
    obtain ⟨v, hv⟩ : ∃ v, validation (a.map graded) = .ok v := by
      refine validation_eq_ok fun h => ?_
      cases a with
      | ok c => cases h
      | error f =>
        cases h
        exact ending_ne_cancelled r ha
    exact ⟨v, hv, read?_eq_some ha hv⟩
  | external =>
    refine ⟨validation, rfl, fun r a ha => ?_⟩
    obtain ⟨v, hv⟩ : ∃ v, validation a = .ok v := by
      refine validation_eq_ok ?_
      rintro rfl
      exact ending_ne_cancelled r ha
    exact ⟨v, hv, read?_eq_some ha hv⟩

theorem critique_calls (t : Task) (m : Memory) :
    Calls limit (.complete (critiqueRequest t m))
      (fun e x => (∀ words, x = .ok words → criticised? limit e = some words) ∧
        ∀ f, x = .error f → refusal? limit e = some f) (critique t m) := by
  let g (a : Except Failure (Except Failure Completion)) : Except Failure String :=
    (a.bind id).map fun c => Text.trimString c.text
  refine ⟨g, complete_map _ _, fun r a ha => ⟨?_, ?_⟩⟩
  · exact fun words hx => read?_eq_some ha hx
  · intro f hx
    cases a with
    | error e =>
      cases hx
      rw [refusal?, ha]
    | ok b =>
      cases b with
      | ok c => cases hx
      | error e =>
        cases hx
        rw [refusal?, ha]

theorem flatten_append_act (i : Nat) :
    (List.replicate i [Stage.act, .critique]).flatten ++ [.act] = stages i := by
  induction i with
  | zero => rfl
  | succ i ih =>
    rw [List.replicate_succ, List.flatten_cons, List.append_assoc, ih]
    rfl

def Revised (i : Nat) (s : State) : Prop :=
  s.trace.steps.map Step.stage = (List.replicate i [.act, .critique]).flatten

section

variable {s : State} {a b k : Exchange} {text words : String} {v : Validation}

theorem Revised.judge (hs : Revised i s) (number : Nat) (text : String) (v : Validation) :
    (s.judge number text v).trace.steps.map Step.stage = stages i := by
  rw [State.judge]
  dsimp only
  rw [Trace.steps_record, List.map_append, hs]
  exact flatten_append_act i

theorem Revised.criticise (hs : Revised i s) (number : Nat) (text words : String) (v : Validation) :
    Revised (i + 1) (((s.judge number text v).remember number text v).criticise words) := by
  have hact : ((s.judge number text v).remember number text v).trace.steps.map Step.stage =
      stages i :=
    hs.judge number text v
  rw [Revised, State.criticise]
  dsimp only
  rw [Trace.steps_record, List.map_append, hact, ← flatten_append_act, List.replicate_succ',
    List.flatten_append, List.append_assoc]
  rfl

theorem ending_passed (hi : i < n) (tried : Tried limit team t a b text v) (hv : v.passed = true)
    (hs : s.trace.steps.map Step.stage = stages i) :
    Ending limit team t n i [a, b] (conclude (s, .ok (text, v.score.getD 0.9))) := by
  have hne : s.trace.steps ≠ [] := fun h => by
    rw [h] at hs
    cases hs
  refine .passed hi tried hv rfl rfl ?_ ?_
  · show Number.normalize (v.score.getD 0.9) = _
    cases v.score with
    | none => exact Number.normalize_of_inUnit ⟨by decide, by decide, by decide⟩
    | some x => rfl
  · rw [conclude, Result.success, Result.trace_build hne]
    exact hs

theorem stages_record_halt (hs : s.trace.steps.map Step.stage = stages i) (reason : String) :
    (s.trace.record .halt reason).steps.map Step.stage = stages i ++ [.halt] := by
  rw [Trace.steps_record, List.map_append, hs]
  rfl

theorem ending_exhausted (hi : i + 1 = n) (tried : Tried limit team t a b text v)
    (hv : v.passed = false) (hs : s.trace.steps.map Step.stage = stages i)
    (hlast : s.lastOutput = text) :
    Ending limit team t n i [a, b] (conclude (s, .error (.exhausted "Attempt" n))) := by
  refine .exhausted hi tried hv rfl hlast ?_ ?_
  · show Number.normalize 0.3 = 0.3
    exact Number.normalize_of_inUnit ⟨by decide, by decide, by decide⟩
  · rw [conclude, Result.partialAnswer, Result.trace_build (Trace.record_ne_nil _ _ _)]
    exact stages_record_halt hs _

theorem ending_uncriticised {f : Failure} (hi : i + 1 < n)
    (tried : Tried limit team t a b text v) (hv : v.passed = false) (hk : Criticises t k)
    (hf : refusal? limit k = some f) (hs : s.trace.steps.map Step.stage = stages i)
    (hlast : s.lastOutput = text) :
    Ending limit team t n i [a, b, k] (conclude (s, .error f)) := by
  refine .uncriticised hi tried hv hk hf fun hbackend => ?_
  have hdegraded : conclude (s, .error f) =
      .degraded .reflexive s.lastOutput s.trace f.message := by
    cases f <;> first | rfl | cases hbackend
  rw [hdegraded]
  refine ⟨rfl, hlast, Number.normalize_of_inUnit Number.inUnit_zero, ?_⟩
  rw [Result.degraded, Result.trace_build (Trace.record_ne_nil _ _ _)]
  exact stages_record_halt hs _

theorem loop_conducts {o : Outcome (State × Except Failure (String × Float))}
    (hi : i + (left + 1) = n) (hs : Revised i s)
    (hl : ∀ e ∈ l, ∀ text, ending limit e.reply ≠ .panic text)
    (hw : ∀ e ∈ l, ∀ m, e.query = attemptQuery team t m → ¬Withdrawn limit e)
    (h : (loop team t n (left + 1) (i + 1) s).Conducts limit False l o) :
    (∃ p, o = .value p ∧ Ending limit team t n i l (conclude p)) ∨
      ∃ round m s', l = Round.log round ++ m ∧ round.Failed limit team t ∧ 0 < left ∧
        Revised (i + 1) s' ∧ (loop team t n left (i + 1 + 1) s').Conducts limit False m o := by
  rw [loop] at h
  obtain ⟨r, x, l, rfl, ⟨hcancelled, hattempted⟩, h⟩ :=
    (attempt_calls team t s.memory).answered h hl
  obtain ⟨text, hx⟩ : ∃ text, output x = .ok text :=
    output_eq_ok fun hc => hw _ List.mem_cons_self s.memory rfl (hcancelled hc)
  rw [hx] at h
  have hl := (List.forall_mem_cons.1 hl).2
  obtain ⟨r', y, l, rfl, ⟨v, rfl, hchecked⟩, h⟩ := (check_calls team t text).answered h hl
  have tried : Tried limit team t ⟨_, r⟩ ⟨_, r'⟩ text v :=
    ⟨⟨s.memory, rfl⟩, hattempted text hx, rfl, hchecked⟩
  dsimp only at h
  by_cases hv : v.passed = true
  · rw [if_pos hv] at h
    obtain ⟨rfl, rfl⟩ := Process.conducts_done_iff.1 h
    exact .inl ⟨_, rfl, ending_passed (by omega) tried hv (hs.judge _ text v)⟩
  have hfailed : v.passed = false := Bool.eq_false_iff.2 hv
  rw [if_neg hv] at h
  by_cases hleft : left = 0
  · rw [if_pos hleft] at h
    obtain ⟨rfl, rfl⟩ := Process.conducts_done_iff.1 h
    exact .inl ⟨_, rfl, ending_exhausted (by omega) tried hfailed (hs.judge _ text v) rfl⟩
  rw [if_neg hleft] at h
  have hl := (List.forall_mem_cons.1 hl).2
  obtain ⟨r'', z, l, rfl, ⟨hwords, hrefused⟩, h⟩ := (critique_calls t _).answered h hl
  cases z with
  | error f =>
    obtain ⟨rfl, rfl⟩ := Process.conducts_done_iff.1 h
    exact .inl ⟨_, rfl, ending_uncriticised (by omega) tried hfailed ⟨_, rfl⟩ (hrefused f rfl)
      (hs.judge _ text v) rfl⟩
  | ok words =>
    refine .inr ⟨⟨_, _, _⟩, l, _, rfl, ?_, Nat.pos_of_ne_zero hleft, hs.criticise _ text words v, h⟩
    exact ⟨⟨text, v, tried, hfailed⟩, ⟨_, rfl⟩, words, hwords words rfl⟩

-- By induction on the attempts left: each round is one more failure until the run ends.
theorem loop_revises {o : Outcome (State × Except Failure (String × Float))}
    (hi : i + left = n) (hleft : 0 < left) (hs : Revised i s)
    (hl : ∀ e ∈ l, ∀ text, ending limit e.reply ≠ .panic text)
    (hw : ∀ e ∈ l, ∀ m, e.query = attemptQuery team t m → ¬Withdrawn limit e)
    (h : (loop team t n left (i + 1) s).Conducts limit False l o) :
    ∃ (p : _) (rounds : List Round) (last : List Exchange),
      o = .value p ∧ l = rounds.flatMap Round.log ++ last ∧
      (∀ r ∈ rounds, r.Failed limit team t) ∧
        Ending limit team t n (i + rounds.length) last (conclude p) := by
  induction left generalizing i l s with
  | zero => exact absurd hleft (Nat.lt_irrefl 0)
  | succ left ih =>
    obtain ⟨p, rfl, hend⟩ | ⟨round, m, s', rfl, hround, hleft, hs', h⟩ :=
      loop_conducts hi hs hl hw h
    · exact ⟨p, [], l, rfl, rfl, List.forall_mem_nil _, hend⟩
    · obtain ⟨p, rounds, last, rfl, rfl, hrounds, hend⟩ := ih (by omega) hleft hs'
        (fun e he => hl e (List.mem_append_right _ he))
        (fun e he => hw e (List.mem_append_right _ he)) h
      refine ⟨p, round :: rounds, last, rfl, ?_, List.forall_mem_cons.2 ⟨hround, hrounds⟩, ?_⟩
      · rw [List.flatMap_cons, List.append_assoc]
      · rw [List.length_cons, Nat.add_comm rounds.length 1, ← Nat.add_assoc]
        exact hend

end

theorem run_conducts_revises {o : Options} {out : Outcome Result}
    (hl : ∀ e ∈ l, ∀ text, ending limit e.reply ≠ .panic text)
    (hw : ∀ e ∈ l, ∀ m, e.query = attemptQuery team t m → ¬Withdrawn limit e)
    (h : (run team t o).Conducts limit False l out) :
    ∃ (r : Result) (rounds : List Round) (last : List Exchange), out = .value r ∧
      l = rounds.flatMap Round.log ++ last ∧ (∀ r ∈ rounds, r.Failed limit team t) ∧
        Ending limit team t (max o.maxIterations 1) rounds.length last r := by
  have hstart : Revised 0 .start := rfl
  obtain ⟨p, m, n, rfl, hm, hn⟩ | ⟨text, -, hm⟩ := Process.conducts_bind h
  · obtain ⟨rfl, rfl⟩ := Process.conducts_done_iff.1 hn
    rw [List.append_nil] at hl hw ⊢
    obtain ⟨p', rounds, last, hp, hlog, hfailed, hending⟩ :=
      loop_revises (Nat.zero_add _) (by omega) hstart hl hw hm
    cases hp
    rw [Nat.zero_add] at hending
    exact ⟨_, rounds, last, rfl, hlog, hfailed, hending⟩
  · obtain ⟨_, _, _, hp, -⟩ := loop_revises (Nat.zero_add _) (by omega) hstart hl hw hm
    cases hp

theorem run_revises {σ : Type} (w : World σ) (team : Team) (t : Task) (o : Options) (limit : Nat)
    (world : σ) (signal : Option Nat) :
    let ended := (run team t o).run w limit (.start world signal)
    let log := w.exchanges world ended.2.queries
    ended.2.cancelled = false →
      (∀ e ∈ log, ∀ text, ending limit e.reply ≠ .panic text) →
        (∀ e ∈ log, ∀ m, e.query = attemptQuery team t m → ¬Withdrawn limit e) →
          ∃ (r : Result) (rounds : List Round) (last : List Exchange),
            ended.1 = .value r ∧ log = rounds.flatMap Round.log ++ last ∧
              (∀ r ∈ rounds, r.Failed limit team t) ∧
                Ending limit team t (max o.maxIterations 1) rounds.length last r := by
  intro ended log hc hl hw
  obtain ⟨l, hqueries, h⟩ := (run team t o).run_conducts (c := False) (.start world signal)
    fun hcancelled : ended.2.cancelled = true => by cases hc.symm.trans hcancelled
  have hlog : w.exchanges world l = log := congrArg (w.exchanges world) hqueries.symm
  rw [show w.exchanges (Session.start world signal).world l = log from hlog] at h
  exact run_conducts_revises hl hw h

theorem immediate_obstinate : obstinate.Immediate := by
  rintro (_ | _ | _ | _ | _) _ <;> exact ⟨_, rfl⟩

theorem not_withdrawn_obstinate {e : Exchange} {x : Unit} {qs : List Query}
    (he : e ∈ obstinate.exchanges x qs) : ¬Withdrawn limit e := by
  obtain ⟨y, hy⟩ := reply_of_mem_exchanges he
  obtain ⟨q, r⟩ := e
  obtain rfl : r = (obstinate.respond q y).1 := hy
  intro h
  cases q with
  | complete _ | attempt _ _ => cases (ending_atOnce _).symm.trans h
  | execute _ _ | score _ _ | check _ _ => exact h

theorem run_revises_obstinate :
    let team : Team := { Team.unaided with validator := .external }
    let t := Task.ofDescription "Name a colour"
    let o := Options.default.withMaxIterations 2
    let ended := (run team t o).run obstinate 60000 (.start () none)
    let log := obstinate.exchanges () ended.2.queries
    ended.2.cancelled = false ∧ (∀ e ∈ log, ∀ text, ending 60000 e.reply ≠ .panic text) ∧
      (∀ e ∈ log, ∀ m, e.query = attemptQuery team t m → ¬Withdrawn 60000 e) ∧
        ∃ (r : Result) (rounds : List Round) (last : List Exchange),
          ended.1 = .value r ∧ log = rounds.flatMap Round.log ++ last ∧
            (∀ r ∈ rounds, r.Failed 60000 team t) ∧ Ending 60000 team t 2 rounds.length last r := by
  intro team t o ended log
  have hc : ended.2.cancelled = false := by decide +kernel
  have hl : ∀ e ∈ log, ∀ text, ending 60000 e.reply ≠ .panic text := fun e he =>
    immediate_obstinate.not_panic he
  have hw : ∀ e ∈ log, ∀ m, e.query = attemptQuery team t m → ¬Withdrawn 60000 e := fun e he _ _ =>
    not_withdrawn_obstinate he
  exact ⟨hc, hl, hw, run_revises obstinate team t o 60000 () none hc hl hw⟩

end Deliberation.Engine.Reflexive
