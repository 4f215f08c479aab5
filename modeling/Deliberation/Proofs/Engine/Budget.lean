import Deliberation.Engine.Orchestrator
import Deliberation.Proofs.Engine.Pacing
import Deliberation.Proofs.Engine.Transcript
import Deliberation.Proofs.Run.Duration
import Deliberation.Proofs.Run.Expense
import Deliberation.Proofs.Run.Instant

namespace Deliberation.Engine

open Run

variable {e : Surroundings} {l : List Query} {t : Task}

def budget (o : Options) : Strategy → Nat
  | .iterative => max o.maxIterations 1
  | .reflexive => 3 * max o.maxIterations 1 - 1
  | .treeSearch =>
    (1 + (max o.maxDepth 1 - 1) * max o.beamWidth 1) * (1 + max o.branchFactor 1)
  | .debate => max o.maxRounds 1 * max o.debaterCount 1 + 1

theorem complete_spends (r : Request) : (complete r).Spends 1 :=
  .guarded (Nat.le_refl 1) fun _ => .done 0 _

namespace Iterative

theorem observation_spends (t : Task) (call : ToolCall) : (observation t call).Spends 0 := by
  rw [observation]
  split
  · exact .guarded (Nat.le_refl 0) fun _ => .done 0 _
  · exact .done 0 _

theorem answer_spends (t : Task) (calls : List ToolCall) (s : State) :
    (answer t calls s).Spends 0 := by
  induction calls generalizing s with
  | nil => exact .done 0 _
  | cons call calls ih =>
    rw [answer]
    refine .poll fun c => ?_
    cases c with
    | true => exact .done 0 _
    | false =>
      refine (observation_spends t call).bind (m := 0) fun x => ?_
      cases x with
      | ok text => exact ih _
      | error e => exact .done 0 _

theorem loop_spends (t : Task) (tools : List ToolDeclaration) (limit left : Nat) (s : State) :
    (loop t tools limit left s).Spends left := by
  induction left generalizing s with
  | zero => exact .done 0 _
  | succ left ih =>
    rw [loop, Nat.add_comm]
    refine (complete_spends _).bind fun x => ?_
    cases x with
    | error e => exact .done left _
    | ok c =>
      dsimp only
      split
      · exact .done left _
      · refine ((answer_spends t c.toolCalls _).bind (m := left) fun r => ?_).mono
          (Nat.le_of_eq (Nat.zero_add left))
        obtain ⟨s, e⟩ := r
        cases e with
        | some e => exact .done left _
        | none => exact ih s

theorem run_spends (declarations : Outcome (List ToolDeclaration)) (t : Task) (o : Options) :
    (run declarations t o).Spends (budget o .iterative) := by
  cases declarations with
  | panic text => exact .crash _ text
  | value ds => exact (loop_spends t _ _ _ _).bind (m := 0) fun _ => .done 0 _

end Iterative

namespace Reflexive

theorem attempt_spends (team : Team) (t : Task) (m : Reflection.Memory) :
    (attempt team t m).Spends 1 := by
  rw [attempt]
  cases team.attempter with
  | backend => exact (complete_spends _).bind (m := 0) fun _ => .done 0 _
  | external => exact .guarded (Nat.zero_le 1) fun _ => .done 0 _

theorem check_spends (team : Team) (t : Task) (text : String) :
    (check team t text).Spends 1 := by
  rw [check]
  cases team.validator with
  | backend => exact .guarded (Nat.le_refl 1) fun _ => .done 0 _
  | external => exact .guarded (Nat.zero_le 1) fun _ => .done 0 _

theorem critique_spends (t : Task) (m : Reflection.Memory) : (critique t m).Spends 1 :=
  (complete_spends _).bind (m := 0) fun _ => .done 0 _

-- The last attempt has no critique after it.
theorem loop_spends (team : Team) (t : Task) (limit left number : Nat) (s : State) :
    (loop team t limit left number s).Spends (3 * left - 1) := by
  induction left generalizing number s with
  | zero => exact .done 0 _
  | succ left ih =>
    have hsum : 3 * (left + 1) - 1 = 1 + (1 + 3 * left) := by omega
    rw [loop, hsum]
    refine (attempt_spends team t s.memory).bind fun x => ?_
    cases output x with
    | error e => exact .done _ _
    | ok text =>
      refine (check_spends team t text).bind fun y => ?_
      cases y with
      | error e => exact .done _ _
      | ok v =>
        dsimp only
        split
        · exact .done _ _
        · split
          · exact .done _ _
          · next hleft =>
            have hrest : 3 * left = 1 + (3 * left - 1) := by omega
            rw [hrest]
            refine (critique_spends t _).bind fun z => ?_
            cases z with
            | error e => exact .done _ _
            | ok words => exact ih _ _

theorem run_spends (team : Team) (t : Task) (o : Options) :
    (run team t o).Spends (budget o .reflexive) :=
  (loop_spends team t _ _ 1 .start).bind (m := 0) fun _ => .done 0 _

end Reflexive

namespace TreeSearch

theorem evaluate_spends (team : Team) (t : Task) (candidate : String) :
    (evaluate team t candidate).Spends 1 := by
  rw [evaluate]
  cases team.evaluator with
  | backend => exact .guarded (Nat.le_refl 1) fun _ => .done 0 _
  | heuristic => exact .poll fun _ => .done 1 _
  | external => exact .guarded (Nat.zero_le 1) fun _ => .done 0 _

theorem scoreAll_spends (team : Team) (t : Task) (cs : List String) :
    (scoreAll team t cs).Spends cs.length := by
  induction cs with
  | nil => exact .done 0 _
  | cons c cs ih =>
    rw [scoreAll, List.length_cons, Nat.add_comm]
    refine (evaluate_spends team t c).bind fun x => ?_
    cases finiteScore x with
    | error e => exact .done _ _
    | ok score => exact ih.bind (m := 0) fun _ => .done 0 _

theorem expand_spends (team : Team) (t : Task) (count : Nat) (path : List String) :
    (expand team t count path).Spends (1 + count) := by
  refine (complete_spends _).bind fun x => ?_
  cases x with
  | error e => exact .done count _
  | ok c =>
    split
    · exact .done count _
    · next cs hcs => exact (scoreAll_spends team t cs).mono (length_candidates hcs)

theorem workers_spend (team : Team) (t : Task) (b : Bounds) (s : State) :
    ∀ p ∈ workers team t b s, p.Spends (1 + b.branch) := by
  intro p hp
  obtain ⟨id, -, rfl⟩ := List.mem_map.1 hp
  exact (expand_spends team t b.branch (s.tree.path id)).bind (m := 0) fun _ => .done 0 _

theorem explore_succ_spends (team : Team) (t : Task) (b : Bounds) {depths m : Nat} (s : State)
    (h : ∀ s' : State, s'.frontier.length ≤ b.beam → (explore team t b depths s').Spends m) :
    (explore team t b (depths + 1) s).Spends (s.frontier.length * (1 + b.branch) + m) := by
  rw [explore]
  split
  · exact .done _ _
  · refine .poll fun c => ?_
    cases c with
    | true => exact .done _ _
    | false =>
      have hn : (workers team t b s).length * (1 + b.branch) + m ≤
          s.frontier.length * (1 + b.branch) + m := by
        rw [workers, List.length_map]
      refine .fork hn (workers_spend team t b s) fun rs => .poll fun c => ?_
      cases c with
      | true => exact .done _ _
      | false =>
        dsimp only
        split
        · exact .done _ _
        · split
          · exact .done _ _
          · refine h _ ?_
            rw [State.retain, List.length_map]
            exact List.length_take_le _ _

theorem explore_spends (team : Team) (t : Task) (b : Bounds) (depths : Nat) {s : State}
    (hs : s.frontier.length ≤ b.beam) :
    (explore team t b depths s).Spends (depths * (b.beam * (1 + b.branch))) := by
  induction depths generalizing s with
  | zero => exact .done _ _
  | succ depths ih =>
    have hwidth := Nat.mul_le_mul_right (1 + b.branch) hs
    rw [Nat.succ_mul, Nat.add_comm]
    exact (explore_succ_spends team t b s fun s' => ih).mono (Nat.add_le_add_right hwidth _)

theorem search_spends (team : Team) (t : Task) (o : Options) :
    (search team t o).Spends (budget o .treeSearch) := by
  obtain ⟨depths, hdepths⟩ : ∃ depths, max o.maxDepth 1 = depths + 1 :=
    ⟨max o.maxDepth 1 - 1, by omega⟩
  have hroot := explore_succ_spends team t ⟨max o.branchFactor 1, max o.beamWidth 1, o.confidenceFloor⟩
    (.start t) fun _ => explore_spends team t _ depths
  rw [search, budget, hdepths, Nat.add_sub_cancel, Nat.add_mul, Nat.mul_assoc]
  exact hroot.bind (m := 0) fun _ => .done 0 _

end TreeSearch

namespace Debating

theorem speak_spends (t : Task) (soFar : String) (round : Nat) (name : String) (id : Nat) :
    (speak t soFar round name id).Spends 1 :=
  (complete_spends _).bind (m := 0) fun _ => .done 0 _

theorem rounds_spends (t : Task) (names : List String) (left round : Nat) (s : State) :
    (rounds t names left round s).Spends (left * names.length) := by
  induction left generalizing round s with
  | zero => exact .done _ _
  | succ left ih =>
    rw [rounds, Nat.succ_mul]
    refine .poll fun c => ?_
    cases c with
    | true => exact .done _ _
    | false =>
      have hspeakers : ∀ p ∈ speakers t names (debateSoFar s.arguments) round, p.Spends 1 := by
        intro p hp
        obtain ⟨⟨name, id⟩, -, rfl⟩ := List.mem_map.1 hp
        exact speak_spends t (debateSoFar s.arguments) round name id
      have hn : (speakers t names (debateSoFar s.arguments) round).length * 1 +
          left * names.length ≤ left * names.length + names.length := by
        rw [speakers, List.length_map, List.length_zipIdx, Nat.mul_one, Nat.add_comm]
      refine .fork hn hspeakers fun rs => .poll fun c => ?_
      cases c with
      | true => exact .done _ _
      | false =>
        dsimp only
        split
        · exact .done _ _
        · split
          · exact .done _ _
          · exact ih _ _

theorem judge_spends (t : Task) (arguments : List Debate.Argument) :
    (judge t arguments).Spends 1 := by
  refine (complete_spends _).bind (m := 0) fun x => ?_
  split <;> exact .done 0 _

theorem hold_spends (t : Task) (names : List String) (o : Options) :
    (hold t names o).Spends (max o.maxRounds 1 * names.length + 1) := by
  refine (rounds_spends t names _ 0 .start).bind fun r => ?_
  obtain ⟨s, e⟩ := r
  cases e with
  | some e => exact .done _ _
  | none => exact (judge_spends t s.arguments).lift.bind (m := 0) fun _ => .done 0 _

theorem completions_debaterCalls (t : Task) (names : List String)
    (arguments : List Debate.Argument) (round : Nat) :
    completions (debaterCalls t names arguments round) = names.length := by
  have hall : ∀ q ∈ debaterCalls t names arguments round, q.request?.isSome = true := by
    intro q hq
    obtain ⟨name, -, rfl⟩ := List.mem_map.1 hq
    rfl
  rw [completions, List.countP_eq_length.2 hall, debaterCalls, List.length_map]

theorem debaterCalls_not_judges (t : Task) (names : List String)
    (arguments : List Debate.Argument) (round : Nat) :
    ∀ q ∈ debaterCalls t names arguments round, ¬ Judges t q := by
  rintro q hq ⟨as, hj⟩
  obtain ⟨name, -, rfl⟩ := List.mem_map.1 hq
  exact debaterRequest_ne_judgeRequest t t name _ round as (Query.complete.inj hj)

theorem rounds_calls (he : ¬ e.cancels) {names : List String} {left round : Nat} {s : State}
    {out : Outcome (State × Option Failure)}
    (h : (rounds t names left round s).Ends e l out) :
    (∀ q ∈ l, ¬ Judges t q) ∧
      ∀ s', out = .value (s', none) → completions l = left * names.length := by
  induction left generalizing round s l with
  | zero =>
    cases h
    refine ⟨List.forall_mem_nil _, fun _ _ => ?_⟩
    rw [Nat.zero_mul, completions_nil]
  | succ left ih =>
    rcases rounds_ends h with ⟨-, hc⟩ | ⟨rs, joined, m, n, rfl, hj, s₁, x, gaveUp, -, h⟩
    · exact absurd hc he
    · have hperm : m.Perm (debaterCalls t names s.arguments round) := speakers_calls he hj
      have hm : ∀ q ∈ m, ¬ Judges t q := fun q hq =>
        debaterCalls_not_judges t names s.arguments round q (hperm.mem_iff.1 hq)
      rcases h with ⟨-, rfl, rfl⟩ | ⟨-, -, rfl, rfl⟩ | ⟨-, -, h⟩
      · rw [List.append_nil]
        exact ⟨hm, fun _ ho => nomatch ho⟩
      · rw [List.append_nil]
        exact ⟨hm, fun _ ho => nomatch ho⟩
      · obtain ⟨hn, hcount⟩ := ih h
        refine ⟨fun q hq => (List.mem_append.1 hq).elim (hm q) (hn q), fun s' ho => ?_⟩
        rw [completions_append, completions_perm hperm, completions_debaterCalls, hcount s' ho,
          Nat.succ_mul, Nat.add_comm]

theorem hold_calls (he : ¬ e.cancels) {names : List String} {o : Options} {out : Outcome Report}
    (h : (hold t names o).Ends e l out) (hj : ∃ q ∈ l, Judges t q) :
    completions l = max o.maxRounds 1 * names.length + 1 := by
  obtain ⟨q, hq, hj⟩ := hj
  rcases Program.ends_bind h with ⟨⟨s, f⟩, m, n, rfl, hr, hn⟩ | ⟨text, -, hp⟩
  · obtain ⟨hm, hcount⟩ := rounds_calls he hr
    cases f with
    | some f =>
      cases hn
      rw [List.append_nil] at hq
      exact absurd hj (hm q hq)
    | none =>
      have hjudge : n = [.complete (judgeRequest t s.arguments)] := by
        rcases Program.ends_bind hn with ⟨v, n, k, rfl, hv, hd⟩ | ⟨text, -, hp⟩
        · cases hd
          rw [List.append_nil]
          exact judge_ends he (Program.ends_ofProcess hv)
        · exact judge_ends he (Program.ends_ofProcess hp)
      rw [completions_append, hcount s rfl, hjudge, completions_complete]
  · exact absurd hj ((rounds_calls he hp).1 q hq)

theorem judges_of_verdict (he : Steadfast e) {names : List String} {o : Options} {r : Report}
    (h : (hold t names o).Ends e l (.value r)) (hv : r.verdict.isSome = true) :
    ∃ q ∈ l, Judges t q := by
  obtain ⟨arguments, held, judging, hcourse⟩ := course_hold he h
  rcases hcourse.ending with ⟨-, -, rfl⟩ | ⟨-, -, -, -, _, ⟨⟩, hnone⟩
  · rw [hcourse.calls]
    exact ⟨_, List.mem_append_right _ List.mem_cons_self, arguments, rfl⟩
  · rw [hnone] at hv
    cases hv

end Debating

variable {σ : Type}

theorem play_spends (w : World σ) (team : Team) (strategy : Strategy) (t : Task) (o : Options) :
    ∃ (β : Type) (p : Program β Result), p.Spends (budget o strategy) ∧
      ∀ s, play w team strategy t o s = p.run w o.callTimeoutMs s := by
  cases strategy with
  | iterative =>
    exact ⟨Unit, .ofProcess (Iterative.run team.declarations t o),
      (Iterative.run_spends _ t o).lift, fun s => (Program.run_ofProcess _ s).symm⟩
  | reflexive =>
    exact ⟨Unit, .ofProcess (Reflexive.run team t o), (Reflexive.run_spends team t o).lift,
      fun s => (Program.run_ofProcess _ s).symm⟩
  | treeSearch =>
    exact ⟨_, _, (TreeSearch.search_spends team t o).bind (m := 0) fun _ => .done 0 _,
      fun _ => rfl⟩
  | debate =>
    have hhold := Debating.hold_spends t (Debating.debaters o) o
    rw [Debating.debaters, Debate.length_perspectives] at hhold
    exact ⟨_, _, hhold.bind (m := 0) fun _ => .done 0 _, fun _ => rfl⟩

theorem session_play_debate (w : World σ) (team : Team) (t : Task) (o : Options) (s : Session σ) :
    (play w team .debate t o s).2 =
      ((Debating.hold t (Debating.debaters o) o).run w o.callTimeoutMs s).2 := by
  rw [play, Program.run_bind_eq]
  generalize (Debating.hold t (Debating.debaters o) o).run w o.callTimeoutMs s = ended
  obtain ⟨r | text, s⟩ := ended <;> rfl

theorem play_debate_ends (w : World σ) (team : Team) (t : Task) (o : Options) (s : Session σ)
    (hc : (play w team .debate t o s).2.cancelled = false) :
    ∃ l, (play w team .debate t o s).2.queries = s.queries ++ l ∧
      (Debating.hold t (Debating.debaters o) o).Ends (w.surroundings o.callTimeoutMs False) l
        ((Debating.hold t (Debating.debaters o) o).run w o.callTimeoutMs s).1 := by
  rw [session_play_debate] at hc ⊢
  exact Program.run_ends_uncancelled _ s hc

theorem play_within_budget (w : World σ) (team : Team) (strategy : Strategy) (t : Task)
    (o : Options) (s : Session σ) :
    let ended := (play w team strategy t o s).2
    ∃ l, ended.queries = s.queries ++ l ∧ completions l ≤ budget o strategy ∧
      ended.now ≤ s.now + o.callTimeoutMs * l.length ∧
      (strategy = .debate → ended.cancelled = false → (∃ q ∈ l, Debating.Judges t q) →
        completions l = budget o .debate) := by
  intro ended
  obtain ⟨β, p, hspends, hplay⟩ := play_spends w team strategy t o
  have hended : ended = (p.run w o.callTimeoutMs s).2 := congrArg Prod.snd (hplay s)
  obtain ⟨l, hl, h⟩ := Program.run_ends (c := True) p s fun _ => trivial
  rw [← hended] at hl
  refine ⟨l, hl, hspends.completions_le h, ?_, ?_⟩
  · have hlasts : s.Lasts o.callTimeoutMs ended := hended ▸ Program.run_lasts p s
    have hlength := congrArg List.length hl
    simp only [Session.queries, List.length_append, List.length_map] at hlength
    rw [Session.Lasts, hlength, Nat.mul_add] at hlasts
    omega
  · rintro rfl hc
    intro hj
    obtain ⟨l', hl', hhold⟩ := play_debate_ends w team t o s hc
    obtain rfl : l = l' := List.append_cancel_left (hl.symm.trans hl')
    rw [Debating.hold_calls id hhold hj, Debating.debaters, Debate.length_perspectives]
    rfl

theorem play_within_budget_judged :
    let o := { Options.default with maxRounds := 2, debaterCount := 3 }
    let t := Task.ofDescription "Name a colour"
    let ended := (play Debating.colours .unaided .debate t o (.start 0 none)).2
    ∃ l, ended.queries = l ∧ ended.cancelled = false ∧ (∃ q ∈ l, Debating.Judges t q) ∧
      completions l = 7 := by
  intro o t ended
  obtain ⟨l, hl, -, -, hjudged⟩ :=
    play_within_budget Debating.colours .unaided .debate t o (.start 0 none)
  have hc : ended.cancelled = false := Program.run_uncancelled (calm_recital _ _) _ rfl
  have hverdict : ((Debating.hold t (Debating.debaters o) o).runIn? Debating.colours
      o.callTimeoutMs 3 (.start 0 none)).bind
        (fun out => out.1.value?.map fun r => r.verdict.isSome) = some true := by
    rw [Debating.hold, show max o.maxRounds 1 = 2 from rfl]
    simp only [Debating.rounds, Debating.heard, inOrder_eq_insertionSort]
    decide +kernel
  have hj : ∃ q ∈ l, Debating.Judges t q := by
    obtain ⟨l', hl', hhold⟩ := play_debate_ends Debating.colours .unaided t o (.start 0 none) hc
    obtain rfl : l = l' := hl.symm.trans hl'
    obtain ⟨r, hr, hv⟩ := Program.value_of_runIn? hverdict
    rw [hr] at hhold
    exact Debating.judges_of_verdict (steadfast_surroundings Debating.colours_uncancelled _) hhold
      hv
  exact ⟨l, hl, hc, hj, hjudged rfl hc hj⟩

end Deliberation.Engine
