import Deliberation.Proofs.Engine.Complete
import Deliberation.Proofs.Engine.Conversation
import Deliberation.Proofs.Engine.Debating
import Deliberation.Proofs.Engine.Silence
import Deliberation.Proofs.Engine.Sound
import Deliberation.Proofs.Run.Abandonment

namespace Deliberation.Engine

open Run

theorem exists_max_eq_succ (n : Nat) : ∃ k, max n 1 = k + 1 :=
  Nat.exists_eq_add_one.2 (Nat.le_max_right n 1)

theorem complete_heeds {P : Query → Prop} {r : Request} (hq : P (.complete r)) :
    (complete r).Heeds P (· = .value (.error .cancelled)) :=
  .guarded hq rfl fun _ => .done _

namespace Iterative

theorem answer_heeds (t : Task) (calls : List ToolCall) (s : State) :
    (answer t calls s).Heeds (fun _ => True) fun o => ∃ s', o = .value (s', some .cancelled) := by
  induction calls generalizing s with
  | nil => exact .done _
  | cons call calls ih =>
    rw [answer]
    refine .poll ⟨s, rfl⟩ (.done _) ?_
    change Process.Heeds _ _ ((observation t call).bind _)
    rw [observation]
    split
    · rw [Process.guarded_bind]
      refine .guarded trivial ⟨s.act call, rfl⟩ fun a => ?_
      rw [Process.done_bind]
      cases (outcomeOf a).map ToolOutcome.observation with
      | ok text => exact ih _
      | error e => exact .done _
    · exact ih _

theorem loop_heeds (t : Task) (tools : List ToolDeclaration) (bound left : Nat) (s : State) :
    (loop t tools bound left s).Heeds (fun _ => True) fun o =>
      ∃ s', o = .value (s', .error .cancelled) := by
  induction left generalizing s with
  | zero => exact .done _
  | succ left ih =>
    rw [loop]
    refine (complete_heeds trivial).bind (fun _ ho => ?_) fun x => ?_
    · subst ho
      exact ⟨s, rfl⟩
    cases x with
    | error e => exact .done _
    | ok c =>
      dsimp only
      split
      · exact .done _
      · refine (answer_heeds t c.toolCalls _).bind ?_ fun r => ?_
        · rintro _ ⟨s', rfl⟩
          exact ⟨s', rfl⟩
        · obtain ⟨s', e⟩ := r
          cases e with
          | some e => exact .done _
          | none => exact ih s'

theorem run_heeds (ds : List ToolDeclaration) (t : Task) (o : Options) :
    (run (.value ds) t o).Heeds (fun _ => True) fun r =>
      ∃ trace, r = .value (.cancelled .iterative trace) := by
  refine (loop_heeds t (advertised t ds) _ _ _).bind ?_ fun _ => .done _
  rintro _ ⟨s, rfl⟩
  exact ⟨s.trace, rfl⟩

theorem abandoned_run (ds : List ToolDeclaration) (t : Task) (o : Options) :
    (run (.value ds) t o).abandoned = .value (.cancelled .iterative .empty) := by
  obtain ⟨left, hleft⟩ := exists_max_eq_succ o.maxIterations
  simp only [run, hleft]
  rfl

end Iterative

namespace Reflexive

theorem attempt_heeds (team : Team) (t : Task) (m : Reflection.Memory) :
    (attempt team t m).Heeds (fun _ => True) (· = .value (.error .cancelled)) := by
  rw [attempt]
  cases team.attempter with
  | backend =>
    refine (complete_heeds trivial).bind (fun _ ho => ?_) fun _ => .done _
    subst ho
    rfl
  | external => exact .guarded trivial rfl fun _ => .done _

theorem check_heeds (team : Team) (t : Task) (text : String) :
    (check team t text).Heeds (fun _ => True) (· = .value (.error .cancelled)) := by
  rw [check]
  cases team.validator <;> exact .guarded trivial rfl fun _ => .done _

theorem critique_heeds (t : Task) (m : Reflection.Memory) :
    (critique t m).Heeds (fun _ => True) (· = .value (.error .cancelled)) := by
  refine (complete_heeds trivial).bind (fun _ ho => ?_) fun _ => .done _
  subst ho
  rfl

theorem loop_heeds (team : Team) (t : Task) (bound left number : Nat) (s : State) :
    (loop team t bound left number s).Heeds (fun _ => True) fun o =>
      ∃ s', o = .value (s', .error .cancelled) := by
  induction left generalizing number s with
  | zero => exact .done _
  | succ left ih =>
    rw [loop]
    refine (attempt_heeds team t s.memory).bind (fun _ ho => ?_) fun a => ?_
    · subst ho
      exact ⟨s, rfl⟩
    dsimp only
    split
    · exact .done _
    · next text _ =>
      refine (check_heeds team t text).bind (fun _ ho => ?_) fun a => ?_
      · subst ho
        exact ⟨{ s with lastOutput := text }, rfl⟩
      cases a with
      | error e => exact .done _
      | ok v =>
        dsimp only
        split
        · exact .done _
        · split
          · exact .done _
          · refine (critique_heeds t _).bind (fun _ ho => ?_) fun a => ?_
            · subst ho
              exact ⟨_, rfl⟩
            cases a with
            | error e => exact .done _
            | ok words => exact ih _ _

theorem run_heeds (team : Team) (t : Task) (o : Options) :
    (run team t o).Heeds (fun _ => True) fun r =>
      ∃ trace, r = .value (.cancelled .reflexive trace) := by
  refine (loop_heeds team t _ _ _ _).bind ?_ fun _ => .done _
  rintro _ ⟨s, rfl⟩
  exact ⟨s.trace, rfl⟩

theorem abandoned_run (team : Team) (t : Task) (o : Options) :
    (run team t o).abandoned = .value (.cancelled .reflexive .empty) := by
  obtain ⟨left, hleft⟩ := exists_max_eq_succ o.maxIterations
  obtain ⟨_, _, attempter, _, _⟩ := team
  simp only [run, hleft]
  cases attempter <;> rfl

end Reflexive

namespace TreeSearch

theorem explore_heeds (team : Team) (t : Task) (b : Bounds) (depths : Nat) (s : State) :
    (explore team t b depths s).Heeds (fun _ => False) fun o =>
      ∃ s', o = .value (s', some .cancelled) := by
  induction depths generalizing s with
  | zero => exact .done _
  | succ depths ih =>
    have hworkers : ∀ p ∈ workers team t b s, p.Asks fun _ => ¬ False :=
      fun p _ => p.asks_of_forall fun _ => id
    rw [explore]
    split
    · exact .done _
    · refine .poll ⟨s, rfl⟩ (.done _) (.fork hworkers (workers_guarded team t b s)
        (fun joined => ⟨s, rfl⟩) fun joined => .poll ⟨s, rfl⟩ (.done _) ?_)
      dsimp only
      split
      · exact .done _
      · split
        · exact .done _
        · exact ih _

theorem search_heeds (team : Team) (t : Task) (o : Options) :
    (search team t o).Heeds (fun _ => False) fun r =>
      ∃ trace tree, r = .value (.cancelled .treeSearch trace, tree) := by
  refine (explore_heeds team t _ _ _).bind ?_ fun _ => .done _
  rintro _ ⟨s, rfl⟩
  exact ⟨s.trace, s.tree, rfl⟩

theorem abandoned_search (team : Team) (t : Task) (o : Options) :
    (search team t o).abandoned = .value (.cancelled .treeSearch .empty, .ofRoot t.description) := by
  obtain ⟨depths, hdepths⟩ := exists_max_eq_succ o.maxDepth
  simp only [search, hdepths]
  rfl

end TreeSearch

namespace Debating

theorem rounds_heeds (t : Task) (names : List String) (left round : Nat) (s : State) :
    (rounds t names left round s).Heeds (Judges t) fun o =>
      ∃ s', o = .value (s', some .cancelled) := by
  induction left generalizing round s with
  | zero => exact .done _
  | succ left ih =>
    have hspeakers : ∀ p ∈ speakers t names (debateSoFar s.arguments) round,
        p.Asks fun q => ¬ Judges t q := by
      intro p hp
      obtain ⟨⟨name, id⟩, -, rfl⟩ := List.mem_map.1 hp
      refine speak_asks ?_ id
      rintro ⟨arguments, h⟩
      exact debaterRequest_ne_judgeRequest t t name _ round arguments (Query.complete.inj h)
    rw [rounds]
    refine .poll ⟨s, rfl⟩ (.done _) (.fork hspeakers (speakers_guarded t names _ round)
      (fun joined => ⟨s, rfl⟩) fun joined => .poll ⟨s, rfl⟩ (.done _) ?_)
    dsimp only
    split
    · exact .done _
    · split
      · exact .done _
      · exact ih _ _

theorem judge_heeds (t : Task) (arguments : List Debate.Argument) :
    (judge t arguments).Heeds (Judges t) (· = .value none) := by
  refine (complete_heeds ⟨arguments, rfl⟩).bind (fun _ ho => ?_) fun x => ?_
  · subst ho
    rfl
  · split <;> exact .done _

theorem hold_heeds (t : Task) (names : List String) (o : Options) :
    (hold t names o).Heeds (Judges t) fun r =>
      ∃ trace arguments, r = .value ⟨.cancelled .debate trace, arguments, none⟩ := by
  refine (rounds_heeds t names _ 0 .start).bind ?_ fun r => ?_
  · rintro _ ⟨s, rfl⟩
    exact ⟨s.trace, s.arguments, rfl⟩
  · obtain ⟨s, e⟩ := r
    cases e with
    | some e => exact .done _
    | none =>
      refine (judge_heeds t s.arguments).lift.bind (fun _ ho => ?_) fun _ => .done _
      subst ho
      exact ⟨s.trace, s.arguments, rfl⟩

theorem abandoned_hold (t : Task) (names : List String) (o : Options) :
    (hold t names o).abandoned = .value ⟨.cancelled .debate .empty, [], none⟩ := by
  obtain ⟨left, hleft⟩ := exists_max_eq_succ o.maxRounds
  simp only [hold, hleft]
  rfl

end Debating

def Own (t : Task) : Strategy → Query → Prop
  | .treeSearch, _ => False
  | .debate, q => Debating.Judges t q
  | _, _ => True

def Stopped (strategy : Strategy) (o : Outcome Result) : Prop :=
  ∃ trace : Trace, o = .value (.cancelled strategy trace)

variable {σ : Type} {w : World σ} {team : Team} {ds : List ToolDeclaration} {t : Task}
  {o : Options} {world : σ} {signal : Option Nat}

theorem play_heeds (w : World σ) {strategy : Strategy} (t : Task) (o : Options)
    (hd : strategy = .iterative → ∃ ds, team.declarations = .value ds) :
    ∃ (β : Type) (p : Program β Result), p.Heeds (Own t strategy) (Stopped strategy) ∧
      Stopped strategy p.abandoned ∧
      ∀ s, play w team strategy t o s = p.run w o.callTimeoutMs s := by
  cases strategy with
  | iterative =>
    obtain ⟨ds, hd⟩ := hd rfl
    refine ⟨Unit, .ofProcess (Iterative.run (.value ds) t o), (Iterative.run_heeds ds t o).lift,
      ?_, fun s => ?_⟩
    · rw [Process.abandoned_lift, Iterative.abandoned_run]
      exact ⟨.empty, rfl⟩
    · rw [play, hd, Program.run_ofProcess]
  | reflexive =>
    refine ⟨Unit, .ofProcess (Reflexive.run team t o), (Reflexive.run_heeds team t o).lift, ?_,
      fun s => ?_⟩
    · rw [Process.abandoned_lift, Reflexive.abandoned_run]
      exact ⟨.empty, rfl⟩
    · rw [play, Program.run_ofProcess]
  | treeSearch =>
    refine ⟨_, _, (TreeSearch.search_heeds team t o).bind (D := Stopped .treeSearch) ?_
      fun _ => .done _, ?_, fun _ => rfl⟩
    · rintro _ ⟨trace, tree, rfl⟩
      exact ⟨trace, rfl⟩
    · rw [Program.abandoned_bind, TreeSearch.abandoned_search]
      exact ⟨.empty, rfl⟩
  | debate =>
    refine ⟨_, _, (Debating.hold_heeds t (Debating.debaters o) o).bind (D := Stopped .debate) ?_
      fun _ => .done _, ?_, fun _ => rfl⟩
    · rintro _ ⟨trace, arguments, rfl⟩
      exact ⟨trace, rfl⟩
    · rw [Program.abandoned_bind, Debating.abandoned_hold]
      exact ⟨.empty, rfl⟩

end Deliberation.Engine
