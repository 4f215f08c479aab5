import Deliberation.Proofs.Engine.Acceptance
import Deliberation.Proofs.Reply.Grading
import Deliberation.Proofs.Run.Soundness

namespace Deliberation.Engine.Reflexive

open Run

def Approved (limit : Nat) : Exchange → Prop
  | ⟨.complete _, reply⟩ =>
    ∃ c, reply.delay ≤ limit ∧ reply.outcome = .value (.ok c) ∧ Reply.Approves c.text
  | _ => False

variable {limit : Nat} {team : Team} {t : Task} {a b : Exchange} {text : String} {v : Validation}

theorem ending_eq_ok_iff {α : Type} {r : Run.Reply α} {x : α} :
    ending limit r = .value (.ok x) ↔ r.delay ≤ limit ∧ r.outcome = .value x := by
  constructor
  · intro h
    refine ⟨Nat.le_of_not_lt fun hlt => ?_, ending_eq_ok h⟩
    cases (ending_of_lt hlt).symm.trans h
  · rintro ⟨hdelay, hr⟩
    rw [ending, if_pos hdelay, hr]

theorem passed_iff_of_validation {x : Except Failure (Except Failure Completion)}
    (h : validation (x.map graded) = .ok v) :
    v.passed = true ↔ ∃ c, x = .ok (.ok c) ∧ Reply.Approves c.text := by
  match x with
  | .ok (.ok c) =>
    cases h
    simpa [graded] using Reply.passed_grade_iff
  | .ok (.error e) =>
    cases h
    simp [graded, unreachable, Validation.fail]
  | .error .cancelled => cases h
  | .error (.backend _) | .error (.timeout _) | .error (.tool _ _) | .error (.parse _ _)
  | .error (.exhausted _ _) | .error (.validation _ _) =>
    cases h
    simp [unreachable, Validation.fail]

theorem Tried.passed_iff (h : Tried limit team t a b text v) (hteam : team.validator = .backend) :
    v.passed = true ↔ Approved limit b := by
  obtain ⟨q, reply⟩ := b
  have hq : q = checkQuery team t text := h.check
  rw [checkQuery, hteam] at hq
  subst hq
  obtain ⟨x, hx, hv⟩ := ending_of_read? h.verdict
  rw [passed_iff_of_validation hv, Approved]
  refine exists_congr fun c => ?_
  rw [← and_assoc, ← ending_eq_ok_iff, hx]
  simp

theorem run_approved :
    (∀ text : String, ((Reply.grade text).passed = true ↔ Reply.Approves text) ∧
      (∀ x, (Reply.grade text).score = some x → Number.InUnit x) ∧
      ∀ f, (Reply.grade text).feedback = some f → Text.blankString f = false) ∧
    (∀ (x : Except Failure (Except Failure Completion)) (v : Validation),
      validation (x.map graded) = .ok v →
        (v.passed = true ↔ ∃ c, x = .ok (.ok c) ∧ Reply.Approves c.text)) ∧
    ∀ {σ : Type} (w : World σ) (team : Team) (t : Task) (o : Options) (limit : Nat) (world : σ)
      (signal : Option Nat), team.validator = .backend →
        let ended := (run team t o).run w limit (.start world signal)
        ∀ r, ended.1 = .value r → r.succeeded = true →
          ∃ (rounds : List Round) (a b : Exchange),
            w.exchanges world ended.2.queries = rounds.flatMap Round.log ++ [a, b] ∧
              (∀ r ∈ rounds, ¬Approved limit r.checked) ∧
              attempted? limit a = some r.finalAnswer ∧
              b.query = .complete (checkRequest t r.finalAnswer) ∧ Approved limit b := by
  refine ⟨fun text => ⟨Reply.passed_grade_iff, fun _ => Reply.inUnit_grade,
    fun _ => Reply.not_blank_grade⟩, fun x v => passed_iff_of_validation, ?_⟩
  intro σ w team t o limit world signal hteam ended r hr hsucceeded
  obtain ⟨l, hqueries, h⟩ := (run team t o).run_conducts (w := w) (.start world signal) id
  rw [show ((run team t o).run w limit (.start world signal)).1 = .value r from hr] at h
  obtain ⟨rounds, a, b, v, hlog, hrounds, htried, hpassed⟩ := run_conducts_passes h hsucceeded
  refine ⟨rounds, a, b, ?_, fun round hround happroved => ?_, htried.output, ?_,
    (htried.passed_iff hteam).1 hpassed⟩
  · rw [show ended.2.queries = l from hqueries]
    exact hlog
  · obtain ⟨text, v, htried, hfailed⟩ := (hrounds round hround).tried
    cases hfailed.symm.trans ((htried.passed_iff hteam).2 happroved)
  · rw [htried.check, checkQuery, hteam]

def grudging : World Nat where
  respond
    | .complete _ => fun n =>
      let texts := ["I would pass it", "Say more", "\x7b\"passed\": true, \"score\": \"high\"\x7d",
        "Say less", "Fine: \x7b\"feedback\": null, \"passed\": true, \"score\": 7\x7d"]
      (.atOnce (.ok (.ofText (texts.getD n ""))), n + 1)
    | .execute _ _ => pure (.ok "")
    | .score _ _ => pure 0
    | .check _ _ => pure .pass
    | .attempt _ _ => pure (.ok "Blue")

theorem run_approved_grudging :
    let team : Team := { Team.unaided with attempter := .external }
    let t := Task.ofDescription "Name a colour"
    let ended := (run team t .default).run grudging 60000 (.start 0 none)
    let late : Except Failure (Except Failure Completion) := .error (.timeout 60000)
    team.validator = .backend ∧
      (∃ v, validation (late.map graded) = .ok v ∧
        (v.passed = true ↔ ∃ c, late = .ok (.ok c) ∧ Reply.Approves c.text)) ∧
      ∃ r, ended.1 = .value r ∧ r.succeeded = true ∧
        ∃ (rounds : List Round) (a b : Exchange),
          grudging.exchanges 0 ended.2.queries = rounds.flatMap Round.log ++ [a, b] ∧
            (∀ r ∈ rounds, ¬Approved 60000 r.checked) ∧
            attempted? 60000 a = some r.finalAnswer ∧
            b.query = .complete (checkRequest t r.finalAnswer) ∧ Approved 60000 b := by
  intro team t ended late
  have hsucceeded : ended.1.value?.map Result.succeeded = some true := by decide +kernel
  obtain ⟨r, hr, hsucceeded⟩ := Option.map_eq_some_iff.1 hsucceeded
  have hvalue : ended.1 = .value r := Outcome.value?_eq_some.1 hr
  exact ⟨rfl, ⟨_, rfl, run_approved.2.1 late _ rfl⟩, r, hvalue, hsucceeded,
    run_approved.2.2 grudging team t .default 60000 0 none rfl r hvalue hsucceeded⟩

end Deliberation.Engine.Reflexive
