import Deliberation.Proofs.Engine.Leeway
import Deliberation.Proofs.Engine.Revision
import Deliberation.Proofs.Run.Group

namespace Deliberation.Engine.Reflexive

open Run Reflection

def returned? (limit : Nat) : Exchange → Option (Except Failure String)
  | ⟨.complete _, r⟩ => (ending limit r).value?.map fun a => (a.bind id).map Completion.text
  | ⟨.attempt _ _, r⟩ => (ending limit r).value?.map fun a => a.bind id
  | _ => none

inductive Yields (limit : Nat) (a : Exchange) : String → Prop
  | genuine {text : String} (h : returned? limit a = some (.ok text)) : Yields limit a text
  | substitute {e : Failure} (h : returned? limit a = some (.error e)) (he : e ≠ .cancelled) :
      Yields limit a ("Attempt failed: " ++ e.message)

section

variable {team : Team} {t : Task} {limit bound left number : Nat} {c : Prop} {l : List Exchange}
  {a : Exchange} {text : String} {s s' : State} {x : Float}

theorem output_cases {y : Except Failure String} (h : output y = .ok text) :
    y = .ok text ∨ ∃ e, y = .error e ∧ e ≠ .cancelled ∧ text = "Attempt failed: " ++ e.message := by
  match y with
  | .ok _ => exact .inl h
  | .error .cancelled => cases h
  | .error (.backend _) | .error (.timeout _) | .error (.tool _ _) | .error (.parse _ _)
  | .error (.exhausted _ _) | .error (.validation _ _) =>
    cases h
    exact .inr ⟨_, rfl, by simp, rfl⟩

theorem yields_of_output {y : Except Failure String} (ha : returned? limit a = some y)
    (hy : output y = .ok text) : Yields limit a text := by
  obtain rfl | ⟨e, rfl, he, rfl⟩ := output_cases hy
  · exact .genuine ha
  · exact .substitute ha he

theorem yields_of_attempted? (h : attempted? limit a = some text) : Yields limit a text := by
  obtain ⟨q, r⟩ := a
  cases q with
  | complete req =>
    obtain ⟨y, hy, htext⟩ := ending_of_read? h
    refine yields_of_output ?_ htext
    rw [returned?, hy]
    rfl
  | attempt t' m =>
    obtain ⟨y, hy, htext⟩ := ending_of_read? h
    refine yields_of_output ?_ htext
    rw [returned?, hy]
    rfl
  | execute name args => cases h
  | score candidate t' => cases h
  | check output t' => cases h

-- By induction on the attempts left: what has been cancelled does not end with a text.
theorem loop_passes
    (h : (loop team t bound left number s).Conducts limit c l (.value (s', .ok (text, x)))) :
    ∃ (rounds : List Round) (a b : Exchange) (v : Validation),
      l = rounds.flatMap Round.log ++ [a, b] ∧ (∀ r ∈ rounds, r.Failed limit team t) ∧
        Tried limit team t a b text v ∧ v.passed = true := by
  induction left generalizing number s l with
  | zero => cases (Process.conducts_done_iff.1 h).2
  | succ left ih =>
    rw [loop] at h
    obtain ⟨r, y, l, rfl, hattempted, h⟩ := (attempt_single team t s.memory).through h
      fun l h => by cases (Process.conducts_done_iff.1 h).2
    cases hy : output y with
    | error e =>
      rw [hy] at h
      cases (Process.conducts_done_iff.1 h).2
    | ok text' =>
      rw [hy] at h
      obtain ⟨r', z, l, rfl, hchecked, h⟩ := (check_single team t text').through h
        fun l h => by cases (Process.conducts_done_iff.1 h).2
      cases z with
      | error e => cases (Process.conducts_done_iff.1 h).2
      | ok v =>
        have tried : Tried limit team t ⟨_, r⟩ ⟨_, r'⟩ text' v :=
          ⟨⟨s.memory, rfl⟩, hattempted text' hy, rfl, hchecked v rfl⟩
        dsimp only at h
        by_cases hv : v.passed = true
        · rw [if_pos hv] at h
          obtain ⟨rfl, ho⟩ := Process.conducts_done_iff.1 h
          cases ho
          exact ⟨[], _, _, v, rfl, List.forall_mem_nil _, tried, hv⟩
        rw [if_neg hv] at h
        by_cases hleft : left = 0
        · rw [if_pos hleft] at h
          cases (Process.conducts_done_iff.1 h).2
        rw [if_neg hleft] at h
        obtain ⟨r'', words, l, rfl, hwords, h⟩ := (critique_single t _).through h
          fun l h => by cases (Process.conducts_done_iff.1 h).2
        cases words with
        | error e => cases (Process.conducts_done_iff.1 h).2
        | ok words =>
          obtain ⟨rounds, a, b, v', rfl, hrounds, htried, hpassed⟩ := ih h
          refine ⟨⟨_, _, _⟩ :: rounds, a, b, v', rfl, ?_, htried, hpassed⟩
          refine List.forall_mem_cons.2 ⟨⟨⟨text', v, tried, ?_⟩, ⟨_, rfl⟩, ?_⟩, hrounds⟩
          · exact Bool.eq_false_iff.2 hv
          · exact ⟨words, hwords words rfl⟩

theorem run_conducts_passes {o : Options} {r : Result}
    (h : (run team t o).Conducts limit c l (.value r)) (hr : r.succeeded = true) :
    ∃ (rounds : List Round) (a b : Exchange) (v : Validation),
      l = rounds.flatMap Round.log ++ [a, b] ∧ (∀ r ∈ rounds, r.Failed limit team t) ∧
        Tried limit team t a b r.finalAnswer v ∧ v.passed = true := by
  obtain ⟨⟨s', y⟩, m, n, rfl, hm, hn⟩ | ⟨text, ho, -⟩ := Process.conducts_bind h
  · obtain ⟨rfl, ho⟩ := Process.conducts_done_iff.1 hn
    cases ho
    obtain ⟨⟨text, x⟩, rfl⟩ := passes_of_succeeded hr
    rw [List.append_nil]
    exact loop_passes hm
  · cases ho

end

theorem run_accepts {σ : Type} (w : World σ) (team : Team) (t : Task) (o : Options) (limit : Nat)
    (world : σ) (signal : Option Nat) :
    let ended := (run team t o).run w limit (.start world signal)
    ∀ r, ended.1 = .value r → r.succeeded = true →
      ∃ (rounds : List Round) (a b : Exchange) (v : Validation),
        w.exchanges world ended.2.queries = rounds.flatMap Round.log ++ [a, b] ∧
          (∀ r ∈ rounds, r.Failed limit team t) ∧ Tried limit team t a b r.finalAnswer v ∧
            v.passed = true ∧ Yields limit a r.finalAnswer := by
  intro ended r hr hsucceeded
  obtain ⟨l, hqueries, h⟩ := (run team t o).run_conducts (w := w) (.start world signal) id
  rw [show ((run team t o).run w limit (.start world signal)).1 = .value r from hr] at h
  obtain ⟨rounds, a, b, v, hlog, hrounds, htried, hpassed⟩ := run_conducts_passes h hsucceeded
  refine ⟨rounds, a, b, v, ?_, hrounds, htried, hpassed, yields_of_attempted? htried.output⟩
  rw [show ended.2.queries = l from hqueries]
  exact hlog

def reconnecting : World Nat where
  respond
    | .complete _ => pure (.ok (.ofText "Try again"))
    | .execute _ _ => pure (.ok "")
    | .score _ _ => pure 0
    | .check _ _ => fun n => (.atOnce (if n = 1 then .fail "No output" else .pass), n)
    | .attempt _ _ => fun n =>
      (.atOnce (if n = 0 then .error (.backend "no connection") else .ok "Blue"), n + 1)

theorem run_accepts_reconnecting :
    let team : Team := { Team.unaided with attempter := .external, validator := .external }
    let t := Task.ofDescription "Name a colour"
    let ended := (run team t .default).run reconnecting 60000 (.start 0 none)
    ∃ r, ended.1 = .value r ∧ r.succeeded = true ∧
      ∃ (rounds : List Round) (a b : Exchange) (v : Validation),
        reconnecting.exchanges 0 ended.2.queries = rounds.flatMap Round.log ++ [a, b] ∧
          (∀ r ∈ rounds, r.Failed 60000 team t) ∧ Tried 60000 team t a b r.finalAnswer v ∧
            v.passed = true ∧ Yields 60000 a r.finalAnswer := by
  intro team t ended
  have hpassed : ended.1.value?.map Result.succeeded = some true := by decide +kernel
  obtain ⟨r, hr, hsucceeded⟩ := Option.map_eq_some_iff.1 hpassed
  have hvalue : ended.1 = .value r := Outcome.value?_eq_some.1 hr
  exact ⟨r, hvalue, hsucceeded,
    run_accepts reconnecting team t .default 60000 0 none r hvalue hsucceeded⟩

def lenient (reply : Reply (Except Failure String)) : World Unit where
  respond
    | .complete _ => pure (.ok (.ofText ""))
    | .execute _ _ => pure (.ok "")
    | .score _ _ => pure 0
    | .check _ _ => pure .pass
    | .attempt _ _ => fun x => (reply, x)

theorem failed_attempt_passes :
    let team : Team := { Team.unaided with attempter := .external, validator := .external }
    let ended (reply : Reply (Except Failure String)) :=
      (run team (.ofDescription "Name a colour") (.withMaxIterations .default 1)).run
        (lenient reply) 30 (.start () none)
    let attempts (reply : Reply (Except Failure String)) :=
      ((lenient reply).exchanges () (ended reply).2.queries).filterMap (returned? 30)
    let failing : Reply (Except Failure String) := .atOnce (.error (.backend "no connection"))
    let late : Reply (Except Failure String) := ⟨none, 50, .value (.ok "Blue")⟩
    attempts failing = [.error (.backend "no connection")] ∧
      (∃ r, (ended failing).1 = .value r ∧ r.succeeded = true ∧
        r.finalAnswer = "Attempt failed: Backend error: no connection") ∧
      attempts late = [.error (.timeout 30)] ∧
      ∃ r, (ended late).1 = .value r ∧ r.succeeded = true ∧
        r.finalAnswer = "Attempt failed: Call timed out after 30ms" :=
  ⟨rfl, ⟨_, rfl, rfl, rfl⟩, rfl, _, rfl, rfl, rfl⟩

end Deliberation.Engine.Reflexive
