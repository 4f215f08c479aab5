import Deliberation.Engine.Orchestrator
import Deliberation.Proofs.Engine.Debating
import Deliberation.Proofs.Engine.TreeSearch
import Deliberation.Proofs.Outcome.Sound
import Deliberation.Proofs.Run.Soundness

namespace Deliberation.Engine

open Run

variable {e : Surroundings} {l : List Query}

namespace Iterative

theorem running_think {s : State} (h : s.trace.Running) (c : Completion) :
    (s.think c).trace.Running := by
  rw [State.think]
  split <;> exact h.record (by decide) _

theorem think_ne_nil (s : State) (c : Completion) : (s.think c).trace.steps ≠ [] := by
  rw [State.think]
  split <;> exact Trace.record_ne_nil _ _ _

theorem running_answer {t : Task} {calls : List ToolCall} {s s' : State} {f : Option Failure}
    (h : (answer t calls s).Ends e l (.value (s', f))) (hs : s.trace.Running) :
    s'.trace.Running := by
  induction calls generalizing l s with
  | nil =>
    cases h
    exact hs
  | cons call calls ih =>
    obtain ⟨b, _, _, -, -, h⟩ := Process.ends_bind_value h
    cases b with
    | true =>
      cases h
      exact hs
    | false =>
      obtain ⟨x, _, _, -, -, h⟩ := Process.ends_bind_value h
      have ha : (s.act call).trace.Running := hs.record (by decide) _
      cases x with
      | error f =>
        cases h
        exact ha
      | ok text => exact ih h (ha.record (by decide) _)

theorem running_loop {t : Task} {tools : List ToolDeclaration} {limit left : Nat} {s s' : State}
    {x : Except Failure String} (h : (loop t tools limit left s).Ends e l (.value (s', x)))
    (hs : s.trace.Running) :
    s'.trace.Running ∧ ∀ text, x = .ok text → s'.trace.steps ≠ [] := by
  induction left generalizing l s with
  | zero =>
    cases h
    exact ⟨hs, fun _ hx => nomatch hx⟩
  | succ left ih =>
    obtain ⟨c, _, _, -, -, h⟩ := Process.ends_bind_value h
    cases c with
    | error f =>
      cases h
      exact ⟨hs, fun _ hx => nomatch hx⟩
    | ok c =>
      dsimp only at h
      split at h
      · cases h
        exact ⟨running_think hs c, fun _ _ => think_ne_nil s c⟩
      · obtain ⟨⟨s₁, f⟩, _, _, -, ha, h⟩ := Process.ends_bind_value h
        have hr := running_answer ha (running_think hs c)
        cases f with
        | some f =>
          cases h
          exact ⟨hr, fun _ hx => nomatch hx⟩
        | none => exact ih h hr

theorem sound_conclude {s : State} {x : Except Failure String} (hs : s.trace.Running)
    (hn : ∀ text, x = .ok text → s.trace.steps ≠ []) : (conclude (s, x)).Sound := by
  cases x with
  | ok text => exact Result.sound_success hs (hn text rfl)
  | error f =>
    cases f with
    | cancelled => exact Result.sound_cancelled hs
    | exhausted bound limit =>
      refine Result.sound_halted hs ?_
      split <;> decide
    | _ => exact Result.sound_degraded hs

theorem sound_run {declarations : Outcome (List ToolDeclaration)} {t : Task} {o : Options}
    {r : Result} (h : (run declarations t o).Ends e l (.value r)) :
    r.strategy = .iterative ∧ r.Sound := by
  obtain ⟨tools, _, _, -, -, h⟩ := Process.ends_bind_value h
  obtain ⟨⟨s, x⟩, _, _, -, hl, h⟩ := Process.ends_bind_value h
  obtain ⟨hs, hn⟩ := running_loop hl Trace.running_empty
  cases h
  refine ⟨?_, sound_conclude hs hn⟩
  unfold conclude
  split <;> rfl

end Iterative

namespace Reflexive

theorem running_loop {team : Team} {t : Task} {limit left number : Nat} {s s' : State}
    {x : Except Failure (String × Float)}
    (h : (loop team t limit left number s).Ends e l (.value (s', x))) (hs : s.trace.Running) :
    s'.trace.Running ∧ ∀ answer, x = .ok answer → s'.trace.steps ≠ [] := by
  induction left generalizing l number s with
  | zero =>
    cases h
    exact ⟨hs, fun _ hx => nomatch hx⟩
  | succ left ih =>
    obtain ⟨attempted, _, _, -, -, h⟩ := Process.ends_bind_value h
    dsimp only at h
    split at h
    · cases h
      exact ⟨hs, fun _ hx => nomatch hx⟩
    · obtain ⟨checked, _, _, -, -, h⟩ := Process.ends_bind_value h
      cases checked with
      | error f =>
        cases h
        exact ⟨hs, fun _ hx => nomatch hx⟩
      | ok v =>
        have hj {text : String} : (s.judge number text v).trace.Running := hs.record (by decide) _
        dsimp only at h
        split at h
        · cases h
          exact ⟨hj, fun _ _ => Trace.record_ne_nil _ _ _⟩
        · split at h
          · cases h
            exact ⟨hj, fun _ hx => nomatch hx⟩
          · obtain ⟨words, _, _, -, -, h⟩ := Process.ends_bind_value h
            cases words with
            | error f =>
              cases h
              exact ⟨hj, fun _ hx => nomatch hx⟩
            | ok words => exact ih h (hj.record (by decide) _)

theorem sound_conclude {s : State} {x : Except Failure (String × Float)} (hs : s.trace.Running)
    (hn : ∀ answer, x = .ok answer → s.trace.steps ≠ []) : (conclude (s, x)).Sound := by
  cases x with
  | ok answer => exact Result.sound_success hs (hn answer rfl)
  | error f =>
    cases f with
    | cancelled => exact Result.sound_cancelled hs
    | exhausted bound limit => exact Result.sound_halted hs (by decide)
    | _ => exact Result.sound_degraded hs

theorem sound_run {team : Team} {t : Task} {o : Options} {r : Result}
    (h : (run team t o).Ends e l (.value r)) : r.strategy = .reflexive ∧ r.Sound := by
  obtain ⟨⟨s, x⟩, _, _, -, hl, h⟩ := Process.ends_bind_value h
  obtain ⟨hs, hn⟩ := running_loop hl Trace.running_empty
  cases h
  refine ⟨?_, sound_conclude hs hn⟩
  unfold conclude
  split <;> rfl

end Reflexive

namespace TreeSearch

structure Underway (s : State) : Prop where
  running : s.trace.Running
  unscored : s.trace.steps = [] → s.tree.best? = none

theorem underway_start (t : Task) : Underway (.start t) := by
  refine ⟨Trace.running_empty, fun _ => ?_⟩
  simp [State.start, Search.Tree.best?, Search.Tree.ofRoot, Search.ranking]

theorem trace_addAll (s : State) (parent : Nat) (children : List (String × Option Float)) :
    (s.addAll parent children).trace = s.trace := by
  rw [State.addAll]
  induction children generalizing s with
  | nil => rfl
  | cons c cs ih =>
    rw [List.foldl_cons, ih]
    obtain ⟨content, score⟩ := c
    dsimp only
    cases s.tree.addChild? parent content (score.map Search.Score.ofFloat) <;> rfl

theorem underway_enter {s : State} (h : Underway s) (parent : Nat) (x : Expansion) :
    Underway (s.enter parent x) := by
  have hr (text : String) : (s.trace.record .expand text).Running := h.running.record (by decide) _
  cases x with
  | ok children =>
    refine ⟨?_, fun hn => ?_⟩
    · rw [State.enter, trace_addAll]
      exact hr _
    · rw [State.enter, trace_addAll] at hn
      exact absurd hn (Trace.record_ne_nil _ _ _)
  | error f => exact ⟨hr _, fun hn => absurd hn (Trace.record_ne_nil _ _ _)⟩

theorem underway_enterAll {s : State} (h : Underway s) (expansions : List (Nat × Expansion)) :
    Underway (s.enterAll expansions) := by
  have hf (s : State) (h : Underway s) :
      Underway (expansions.foldl (fun s x => s.enter x.1 x.2) s) := by
    induction expansions generalizing s with
    | nil => exact h
    | cons x xs ih => exact ih _ (underway_enter h x.1 x.2)
  have hs := hf { s with created := [] } ⟨h.running, h.unscored⟩
  refine ⟨hs.running.recordAll (by decide) _, fun hn => hs.unscored ?_⟩
  exact (List.append_eq_nil_iff.1 hn).1

theorem underway_explore {team : Team} {t : Task} {b : Bounds} {depths : Nat} {s s' : State}
    {f : Option Failure} (h : (explore team t b depths s).Ends e l (.value (s', f)))
    (hs : Underway s) : Underway s' := by
  induction depths generalizing l s with
  | zero =>
    cases h
    exact hs
  | succ depths ih =>
    rcases explore_ends h with ⟨-, -, ho⟩ | ⟨ho, -⟩ | ⟨_, joined, _, _, -, -, s₁, hs₁, h⟩
    · cases ho
      exact hs
    · cases ho
      exact hs
    · have he : Underway s₁ := hs₁ ▸ underway_enterAll hs (inOrder joined)
      rcases h with ⟨-, -, ho⟩ | ⟨-, h⟩
      · cases ho
        exact he
      · exact ih h ⟨he.running, he.unscored⟩

theorem sound_conclude {s : State} (hs : Underway s) (f : Option Failure) :
    (conclude s f).Sound := by
  rw [conclude]
  split
  · exact Result.sound_cancelled hs.running
  · exact Result.sound_degraded hs.running
  · next n _ hb =>
    refine Result.sound_success hs.running fun hn => ?_
    simp [hs.unscored hn] at hb
  · exact Result.sound_degraded hs.running

theorem sound_search {team : Team} {t : Task} {o : Options} {r : Result} {tree : Search.Tree}
    (h : (search team t o).Ends e l (.value (r, tree))) : r.strategy = .treeSearch ∧ r.Sound := by
  obtain ⟨⟨s, f⟩, _, _, -, hx, h⟩ := Program.ends_bind_value h
  have hs : Underway s := underway_explore hx (underway_start t)
  cases h
  refine ⟨?_, sound_conclude hs f⟩
  unfold conclude
  split <;> rfl

end TreeSearch

namespace Debating

theorem running_addAll {s : State} (h : s.trace.Running) (as : List Debate.Argument) :
    (s.addAll as).trace.Running :=
  h.recordAll (by decide) _

theorem running_rounds {t : Task} {names : List String} {left round : Nat} {s s' : State}
    {f : Option Failure} (h : (rounds t names left round s).Ends e l (.value (s', f)))
    (hs : s.trace.Running) : s'.trace.Running := by
  induction left generalizing l round s with
  | zero =>
    cases h
    exact hs
  | succ left ih =>
    rcases rounds_ends h with ⟨ho, -⟩ | ⟨_, joined, _, _, -, -, s₁, x, gaveUp, ht, h⟩
    · cases ho
      exact hs
    · obtain ⟨as, ha⟩ := takeIn_extends round (heard names joined) s none
      obtain rfl : s₁ = s.addAll as := (congrArg Prod.fst ht).symm.trans ha
      have hr := running_addAll hs as
      rcases h with ⟨-, -, ho⟩ | ⟨-, -, -, ho⟩ | ⟨-, -, h⟩
      · cases ho
        exact hr
      · cases ho
        exact hr
      · exact ih h hr

theorem sound_abort {s : State} (h : s.trace.Running) (f : Failure) :
    (abort s f).strategy = .debate ∧ (abort s f).Sound := by
  cases f with
  | cancelled => exact ⟨rfl, Result.sound_cancelled h⟩
  | _ => exact ⟨rfl, Result.sound_degraded h⟩

theorem sound_conclude {s : State} (h : s.trace.Running) (v : Option Debate.Verdict) :
    (conclude s v).result.strategy = .debate ∧ (conclude s v).result.Sound := by
  cases v with
  | none => exact ⟨rfl, Result.sound_cancelled h⟩
  | some v =>
    exact ⟨rfl, Result.sound_success (h.record (by decide) _) (Trace.record_ne_nil _ _ _)⟩

theorem sound_hold {t : Task} {names : List String} {o : Options} {r : Report}
    (h : (hold t names o).Ends e l (.value r)) :
    r.result.strategy = .debate ∧ r.result.Sound := by
  obtain ⟨⟨s, f⟩, _, _, -, hr, h⟩ := Program.ends_bind_value h
  have hs := running_rounds hr Trace.running_empty
  cases f with
  | some f =>
    cases h
    exact sound_abort hs f
  | none =>
    obtain ⟨v, _, _, -, -, h⟩ := Program.ends_bind_value h
    cases h
    exact sound_conclude hs v

end Debating

variable {σ : Type}

theorem sound_play {w : World σ} {team : Team} {strategy : Strategy} {t : Task} {o : Options}
    {s : Session σ} {r : Result} (h : (play w team strategy t o s).1 = .value r) :
    r.strategy = strategy ∧ r.Sound := by
  cases strategy with
  | iterative =>
    obtain ⟨_, -, he⟩ := Process.run_ends (c := True) (Iterative.run team.declarations t o) s
      fun _ => trivial
    exact Iterative.sound_run (h ▸ he)
  | reflexive =>
    obtain ⟨_, -, he⟩ := Process.run_ends (c := True) (Reflexive.run team t o) s fun _ => trivial
    exact Reflexive.sound_run (h ▸ he)
  | treeSearch =>
    obtain ⟨_, -, he⟩ := Program.run_ends (c := True)
      ((TreeSearch.search team t o).bind fun r => .done r.1) s fun _ => trivial
    obtain ⟨x, _, _, -, hx, hr⟩ := Program.ends_bind_value (h ▸ he)
    cases hr
    exact TreeSearch.sound_search hx
  | debate =>
    obtain ⟨_, -, he⟩ := Program.run_ends (c := True)
      ((Debating.hold t (Debating.debaters o) o).bind fun r => .done r.result) s fun _ => trivial
    obtain ⟨x, _, _, -, hx, hr⟩ := Program.ends_bind_value (h ▸ he)
    cases hr
    exact Debating.sound_hold hx

theorem orchestrate_sound (w : World σ) (team : Team) (t : Task) (o : Options) (s : Session σ) :
    (orchestrate w team t o s).1.strategy = team.choose t o ∧
      (orchestrate w team t o s).1.Sound ∧
        (Text.trimString t.description = "" →
          (orchestrate w team t o s).2 = s ∧
            ∃ reason, (orchestrate w team t o s).1.trace.steps = [⟨.halt, reason⟩]) := by
  rw [orchestrate]
  by_cases hb : t.blank = true
  · rw [if_pos hb]
    exact ⟨rfl, Result.sound_failure _ _, fun _ => ⟨rfl, _, rfl⟩⟩
  · rw [if_neg hb]
    obtain ⟨outcome, s', hp⟩ : ∃ outcome s', play w team (team.choose t o) t o s = (outcome, s') :=
      ⟨_, _, rfl⟩
    simp only [hp]
    cases outcome with
    | value r =>
      obtain ⟨hr, hs⟩ := sound_play (congrArg Prod.fst hp)
      exact ⟨hr, hs, fun hd => absurd (Text.trimString_eq_empty_iff.1 hd) hb⟩
    | panic text => exact ⟨rfl, Result.sound_failure _ _, fun hd => absurd (Text.trimString_eq_empty_iff.1 hd) hb⟩

end Deliberation.Engine
