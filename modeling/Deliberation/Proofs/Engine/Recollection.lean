import Deliberation.Engine.Reflexive
import Deliberation.Proofs.Engine.Complete
import Deliberation.Proofs.Run.Sequence

namespace Deliberation.Reflection

theorem Memory.render_append {m n : Memory} (hm : m ≠ []) (hn : n ≠ []) :
    render (m ++ n) = render m ++ "\n\n" ++ render n := by
  induction m with
  | nil => exact absurd rfl hm
  | cons e m ih =>
    cases m with
    | nil =>
      obtain ⟨f, n, rfl⟩ := List.exists_cons_of_ne_nil hn
      simp [render, String.intercalate_cons_cons]
    | cons f m =>
      have ih := ih (List.cons_ne_nil f m)
      simp only [render, List.cons_append, List.map_cons, String.intercalate_cons_cons] at ih ⊢
      rw [ih]
      simp only [String.append_assoc]

theorem Memory.render_middle (m : Memory) (e : Entry) (n : Memory) :
    render (m ++ e :: n) = (if m = [] then "" else render m ++ "\n\n") ++ e.render ++
      if n = [] then "" else "\n\n" ++ render n := by
  have htail : render (e :: n) = e.render ++ if n = [] then "" else "\n\n" ++ render n := by
    split
    · next hn =>
      subst hn
      simp [render]
    · next hn =>
      rw [← List.singleton_append, render_append (List.cons_ne_nil e []) hn]
      simp [render, String.append_assoc]
  split
  · next hm =>
    subst hm
    rw [List.nil_append, htail, String.empty_append]
  · next hm =>
    rw [render_append hm (List.cons_ne_nil e n), htail]
    simp only [String.append_assoc]

end Deliberation.Reflection

namespace Deliberation.Engine.Reflexive

open Run Reflection

variable {team : Team} {t : Task} {limit bound left : Nat} {c : Prop} {l : List Exchange}

def attemptQuery (team : Team) (t : Task) (m : Memory) : Query :=
  match team.attempter with
  | .backend => .complete (attemptRequest t m)
  | .external => .attempt t m

def checkQuery (team : Team) (t : Task) (text : String) : Query :=
  match team.validator with
  | .backend => .complete (checkRequest t text)
  | .external => .check text t

def attempted? (limit : Nat) : Exchange → Option String
  | ⟨.complete _, r⟩ => read? limit r fun a => output ((a.bind id).map Completion.text)
  | ⟨.attempt _ _, r⟩ => read? limit r fun a => output (a.bind id)
  | _ => none

def checked? (limit : Nat) : Exchange → Option Validation
  | ⟨.complete _, r⟩ => read? limit r fun a => validation (a.map graded)
  | ⟨.check _ _, r⟩ => read? limit r validation
  | _ => none

def criticised? (limit : Nat) : Exchange → Option String
  | ⟨.complete _, r⟩ => read? limit r fun a => (a.bind id).map fun c => Text.trimString c.text
  | _ => none

structure Round where
  attempted : Exchange
  checked : Exchange
  criticised : Exchange

def Round.log (r : Round) : List Exchange :=
  [r.attempted, r.checked, r.criticised]

structure Recalls (limit : Nat) (rounds : List Round) (m : Memory) : Prop where
  length : m.length = rounds.length
  entry : ∀ (i : Nat) r, rounds[i]? = some r → ∃ text v words,
    attempted? limit r.attempted = some text ∧ checked? limit r.checked = some v ∧
      v.passed = false ∧ criticised? limit r.criticised = some words ∧
      m[i]? = some ⟨i + 1, text, v.feedback, some words⟩

inductive Due (limit : Nat) (team : Team) (t : Task) : List Exchange → Query → Prop
  | attempt {rounds : List Round} {m : Memory} (hm : Recalls limit rounds m) :
      Due limit team t (rounds.flatMap Round.log) (attemptQuery team t m)
  | check {rounds : List Round} {m : Memory} {a : Exchange} {text : String}
      (hm : Recalls limit rounds m) (ha : attempted? limit a = some text) :
      Due limit team t (rounds.flatMap Round.log ++ [a]) (checkQuery team t text)
  | critique {rounds : List Round} {m : Memory} {a b : Exchange} {text : String} {v : Validation}
      (hm : Recalls limit rounds m) (ha : attempted? limit a = some text)
      (hb : checked? limit b = some v) (hv : v.passed = false) :
      Due limit team t (rounds.flatMap Round.log ++ [a, b]) (.complete
        (critiqueRequest t (m ++ [⟨rounds.length + 1, text, v.feedback, none⟩])))

theorem Recalls.nil (limit : Nat) : Recalls limit [] [] where
  length := rfl
  entry := fun _ _ h => nomatch h

theorem Recalls.snoc {rounds : List Round} {m : Memory} (hm : Recalls limit rounds m) {r : Round}
    {text words : String} {v : Validation} (ha : attempted? limit r.attempted = some text)
    (hb : checked? limit r.checked = some v) (hv : v.passed = false)
    (hc : criticised? limit r.criticised = some words) :
    Recalls limit (rounds ++ [r]) (m ++ [⟨rounds.length + 1, text, v.feedback, some words⟩]) where
  length := by simp [hm.length]
  entry := by
    intro i r' hr
    obtain hi | hi := Nat.lt_or_ge i rounds.length
    · rw [List.getElem?_append_left hi] at hr
      obtain ⟨text', v', words', ha', hb', hv', hc', hi'⟩ := hm.entry i r' hr
      refine ⟨text', v', words', ha', hb', hv', hc', ?_⟩
      rw [List.getElem?_append_left (hm.length ▸ hi), hi']
    · rw [List.getElem?_append_right hi] at hr
      obtain ⟨hlt, hr⟩ := List.getElem?_eq_some_iff.1 hr
      obtain rfl : i = rounds.length := by
        rw [List.length_singleton] at hlt
        omega
      rw [List.getElem_singleton] at hr
      subst hr
      refine ⟨text, v, words, ha, hb, hv, hc, ?_⟩
      rw [← hm.length, List.getElem?_concat_length]

theorem criticise_append (words : String) (m : Memory) (e : Entry) :
    criticise words (m ++ [e]) = m ++ [{ e with critique := some words }] := by
  induction m with
  | nil => rfl
  | cons f m ih =>
    cases m with
    | nil => rfl
    | cons g m => exact congrArg (f :: ·) ih

theorem attempt_single (team : Team) (t : Task) (m : Memory) :
    Single limit c (attemptQuery team t m)
      (fun e x => ∀ text, output x = .ok text → attempted? limit e = some text)
      (attempt team t m) := by
  rw [attempt, attemptQuery]
  cases team.attempter with
  | backend =>
    rw [complete_map]
    exact single_call rfl rfl fun _ => rfl
  | external => exact single_call rfl rfl fun _ => rfl

theorem check_single (team : Team) (t : Task) (text : String) :
    Single limit c (checkQuery team t text)
      (fun e x => ∀ v, x = .ok v → checked? limit e = some v) (check team t text) := by
  rw [check, checkQuery]
  cases team.validator <;> exact single_call (f := id) rfl rfl fun _ => rfl

theorem critique_single (t : Task) (m : Memory) :
    Single limit c (.complete (critiqueRequest t m))
      (fun e x => ∀ words, x = .ok words → criticised? limit e = some words) (critique t m) := by
  rw [critique, complete_map]
  exact single_call (f := id) rfl rfl fun _ => rfl

theorem Recalls.criticise {rounds : List Round} {m : Memory} (hm : Recalls limit rounds m)
    {r : Round} {text words : String} {v : Validation}
    (ha : attempted? limit r.attempted = some text) (hb : checked? limit r.checked = some v)
    (hv : v.passed = false) (hc : criticised? limit r.criticised = some words) :
    Recalls limit (rounds ++ [r])
      (Reflexive.criticise words (m ++ [⟨rounds.length + 1, text, v.feedback, none⟩])) := by
  rw [criticise_append]
  exact hm.snoc ha hb hv hc

theorem loop_follows {rounds : List Round} {s : State}
    {o : Outcome (State × Except Failure (String × Float))}
    (hs : Recalls limit rounds s.memory)
    (h : (loop team t bound left (rounds.length + 1) s).Conducts limit c l o) :
    Follows (Due limit team t) (rounds.flatMap Round.log) l := by
  induction left generalizing rounds s l with
  | zero => exact follows_done h
  | succ left ih =>
    rw [loop] at h
    refine (attempt_single team t s.memory).follows (.attempt hs) h
      (fun l h => (Process.conducts_done_iff.1 h).1) fun a x l ha h => ?_
    cases hx : output x with
    | error e =>
      rw [hx] at h
      exact follows_done h
    | ok text =>
      rw [hx] at h
      refine (check_single team t text).follows (.check hs (ha text hx)) h
        (fun l h => (Process.conducts_done_iff.1 h).1) fun b x l hb h => ?_
      cases x with
      | error e => exact follows_done h
      | ok v =>
        dsimp only at h
        by_cases hv : v.passed = true
        · rw [if_pos hv] at h
          exact follows_done h
        by_cases hleft : left = 0
        · rw [if_neg hv, if_pos hleft] at h
          exact follows_done h
        rw [if_neg hv, if_neg hleft] at h
        have hfailed : v.passed = false := Bool.eq_false_iff.2 hv
        rw [List.append_assoc]
        refine (critique_single t _).follows (.critique hs (ha text hx) (hb v rfl) hfailed) h
          (fun l h => (Process.conducts_done_iff.1 h).1) fun k x l hk h => ?_
        cases x with
        | error e => exact follows_done h
        | ok words =>
          -- the entry of this round is complete, and the next attempt is told of it
          have hround := hs.criticise (r := ⟨a, b, k⟩) (ha text hx) (hb v rfl) hfailed
            (hk words rfl)
          have hnumber : rounds.length + 1 + 1 = (rounds ++ [Round.mk a b k]).length + 1 := by
            rw [List.length_append, List.length_singleton]
          rw [hnumber] at h
          have hrest := ih hround h
          rw [List.flatMap_append] at hrest
          rw [List.append_assoc]
          exact hrest

theorem run_follows {o : Options} {r : Outcome Result} (h : (run team t o).Conducts limit c l r) :
    Follows (Due limit team t) [] l := by
  have hstart : Recalls limit [] State.start.memory := .nil limit
  obtain ⟨_, m, n, rfl, hm, hn⟩ | ⟨_, -, hm⟩ := Process.conducts_bind h
  · obtain ⟨rfl, -⟩ := Process.conducts_done_iff.1 hn
    rw [List.append_nil]
    exact loop_follows hstart hm
  · exact loop_follows hstart hm

theorem run_recollects {σ : Type} (w : World σ) (team : Team) (t : Task) (o : Options)
    (limit : Nat) (world : σ) (signal : Option Nat) :
    (let ended := (run team t o).run w limit (.start world signal)
      ∀ before e after, w.exchanges world ended.2.queries = before ++ e :: after →
        Due limit team t before e.query) ∧
      ∀ (m : Memory) (e : Entry) (n : Memory),
        Memory.render (m ++ e :: n) = (if m = [] then "" else m.render ++ "\n\n") ++
          ("Attempt " ++ Nat.repr e.attemptNumber ++ ":\n" ++ Text.preview e.outcome 1000 ++
            e.feedback.elim "" ("\nValidator feedback: " ++ ·) ++
            e.critique.elim "" ("\nCritique: " ++ ·)) ++
          if n = [] then "" else "\n\n" ++ n.render := by
  constructor
  · intro ended before e after hlog
    obtain ⟨l, hl, h⟩ := (run team t o).run_conducts (w := w) (.start world signal) id
    rw [show ended.2.queries = l from hl] at hlog
    have hfollows := run_follows h
    rw [show w.exchanges (Session.start world signal).world l = _ from hlog] at hfollows
    exact hfollows.due
  · intro m e n
    rw [Memory.render_middle, Entry.render]
    cases e.feedback <;> cases e.critique <;> rfl

def obstinate : World Unit where
  respond
    | .complete _ => pure (.ok (.ofText "Blue"))
    | .execute _ _ => pure (.ok "")
    | .score _ _ => pure 0
    | .check _ _ => pure (.fail "Say why")
    | .attempt _ _ => pure (.ok "")

theorem run_recollects_second :
    let team : Team := { Team.unaided with validator := .external }
    let t := Task.ofDescription "Name a colour"
    let o := Options.default.withMaxIterations 2
    let log := obstinate.exchanges ()
      ((run team t o).run obstinate 60000 (.start () none)).2.queries
    ∃ before e after, log = before ++ e :: after ∧ before.length = 3 ∧
      Due 60000 team t before e.query := by
  intro team t o log
  have hlength : log.length = 5 := by decide +kernel
  have hsplit : log = log.take 3 ++ log[3] :: log.drop 4 := by
    rw [← List.drop_eq_getElem_cons, List.take_append_drop]
  have hbefore : (log.take 3).length = 3 := List.length_take_of_le (by omega)
  refine ⟨_, _, _, hsplit, hbefore, ?_⟩
  exact (run_recollects obstinate team t o 60000 () none).1 _ _ _ hsplit

end Deliberation.Engine.Reflexive
