import Deliberation.Proofs.Engine.Cancellation
import Deliberation.Proofs.Engine.Survival
import Deliberation.Proofs.Engine.Transcript
import Deliberation.Proofs.Engine.Wordless
import Deliberation.Proofs.Run.Instant

namespace Deliberation.Engine

open Run

structure Fallen (strategy : Strategy) (r : Result) : Prop where
  strategy : r.strategy = strategy
  unsuccessful : r.succeeded = false
  unsure : r.confidence = 0
  mute : r.finalAnswer = ""
  halted : ∃ reason, r.trace.steps = [⟨.halt, "Reasoning engine failed" ++ reason⟩]

theorem fallen_crashed (strategy : Strategy) (text : String) :
    Fallen strategy (.failure strategy (crashed text)) where
  strategy := rfl
  unsuccessful := rfl
  unsure := rfl
  mute := rfl
  halted := ⟨": task # panicked with message " ++ Text.quote text, rfl⟩

variable {σ : Type} {w : World σ} {team : Team} {t : Task} {o : Options} {s : Session σ}

theorem play_of_declarations {text : String} (hd : team.declarations = .panic text) :
    play w team .iterative t o s = (.panic text, s) := by
  rw [play, hd]
  rfl

theorem play_contained (w : World σ) {strategy : Strategy} (t : Task) (o : Options)
    (hd : strategy = .iterative → ∃ ds, team.declarations = .value ds) (world : σ)
    (signal : Option Nat) :
    Contained w o.callTimeoutMs (Own t strategy) (.start world signal)
      (play w team strategy t o (.start world signal))
      (play w team strategy t o (.start world signal)).2.queries := by
  obtain ⟨β, p, hheeds, -, hplay⟩ := play_heeds w t o hd
  rw [hplay]
  have hstopped : ∀ text, ¬ Stopped strategy (.panic text) := fun _ ⟨_, h⟩ => nomatch h
  obtain ⟨l, hl⟩ := hheeds.contained hstopped w o.callTimeoutMs (.start world signal)
  obtain rfl := hl.queries
  exact hl

theorem declarations_or (team : Team) (strategy : Strategy) :
    (∃ text, strategy = .iterative ∧ team.declarations = .panic text) ∨
      (strategy = .iterative → ∃ ds, team.declarations = .value ds) := by
  cases hd : team.declarations with
  | value ds => exact .inr fun _ => ⟨ds, rfl⟩
  | panic text =>
    by_cases hs : strategy = .iterative
    · exact .inl ⟨text, hs, rfl⟩
    · exact .inr fun h => absurd h hs

theorem orchestrate_blank (w : World σ) (team : Team) (o : Options) (s : Session σ)
    (hb : t.blank = true) : (orchestrate w team t o s).2 = s := by
  rw [orchestrate, if_pos hb]

theorem session_orchestrate (w : World σ) (team : Team) (o : Options) (s : Session σ)
    (hb : t.blank = false) :
    (orchestrate w team t o s).2 = (play w team (team.choose t o) t o s).2 := by
  rw [orchestrate, if_neg (Bool.eq_false_iff.1 hb)]
  generalize play w team (team.choose t o) t o s = ended
  obtain ⟨_ | _, _⟩ := ended <;> rfl

theorem orchestrate_of_value {r : Result} (hb : t.blank = false)
    (h : (play w team (team.choose t o) t o s).1 = .value r) :
    (orchestrate w team t o s).1 = r := by
  rw [orchestrate, if_neg (Bool.eq_false_iff.1 hb)]
  split
  · next hplay =>
    rw [hplay] at h
    cases h
    rfl
  · next hplay =>
    rw [hplay] at h
    cases h

theorem fallen_of_panic {text : String} (hb : t.blank = false)
    (h : (play w team (team.choose t o) t o s).1 = .panic text) :
    Fallen (team.choose t o) (orchestrate w team t o s).1 := by
  rw [orchestrate, if_neg (Bool.eq_false_iff.1 hb)]
  split
  · next hplay =>
    rw [hplay] at h
    cases h
  · exact fallen_crashed _ _

theorem fallen_of_exchange {world : σ} {signal : Option Nat} {e : Exchange} {text : String}
    (he : e ∈ w.exchanges world (orchestrate w team t o (.start world signal)).2.queries)
    (hown : Own t (team.choose t o) e.query) (ht : ending o.callTimeoutMs e.reply = .panic text)
    (hlive : 0 < e.reply.delay →
      (orchestrate w team t o (.start world signal)).2.cancelled = false) :
    Fallen (team.choose t o) (orchestrate w team t o (.start world signal)).1 := by
  cases hb : t.blank with
  | true =>
    rw [orchestrate_blank w team o _ hb] at he
    cases he
  | false =>
    rw [session_orchestrate w team o _ hb] at he hlive
    rcases declarations_or team (team.choose t o) with ⟨_, hs, hd⟩ | hd
    · rw [hs, play_of_declarations hd] at he
      cases he
    · exact fallen_of_panic hb ((play_contained w t o hd world signal).fatal e he hown text ht hlive)

theorem cause_of_panic {world : σ} {signal : Option Nat} {text : String} (hb : t.blank = false)
    (h : (play w team (team.choose t o) t o (.start world signal)).1 = .panic text) :
    (team.choose t o = .iterative ∧ team.declarations = .panic text) ∨
      ∃ e ∈ w.exchanges world (orchestrate w team t o (.start world signal)).2.queries,
        Own t (team.choose t o) e.query ∧ ending o.callTimeoutMs e.reply = .panic text := by
  rw [session_orchestrate w team o _ hb]
  rcases declarations_or team (team.choose t o) with ⟨_, hs, hd⟩ | hd
  · rw [hs, play_of_declarations hd] at h
    cases h
    exact .inl ⟨hs, hd⟩
  · exact .inr ((play_contained w t o hd world signal).cause text h)

theorem orchestrate_soothed {w' : World σ} (hw : Soothes (Debating.Wordless t) w w')
    (hs : team.choose t o = .debate) : orchestrate w' team t o s = orchestrate w team t o s := by
  have hplay : play w' team .debate t o s = play w team .debate t o s :=
    ((Debating.hold_tolerates t (Debating.debaters o) o).bind fun _ => .done _).run_eq hw _ s
  rw [orchestrate, orchestrate, hs, hplay]

theorem orchestrate_descends (w : World σ) (s : Session σ) (hb : t.blank = false)
    (hs : team.choose t o = .treeSearch) :
    ∃ s' e, (orchestrate w team t o s).1 = TreeSearch.conclude s' e ∧
      TreeSearch.Descends w o.callTimeoutMs team t (TreeSearch.bounds o) 0 (max o.maxDepth 1)
        (.start t) s (s', e) (orchestrate w team t o s).2 := by
  obtain ⟨s', e, s₁, hrun, hdescends⟩ := TreeSearch.search_descends w o.callTimeoutMs team t o s
  have hplay : play w team (team.choose t o) t o s = (.value (TreeSearch.conclude s' e), s₁) := by
    rw [hs]
    exact Program.run_bind hrun
  refine ⟨s', e, orchestrate_of_value hb (congrArg Prod.fst hplay), ?_⟩
  rw [session_orchestrate w team o s hb, hplay]
  exact hdescends

theorem panics_contained (w : World σ) (team : Team) (t : Task) (o : Options) (world : σ)
    (signal : Option Nat) :
    let strategy := team.choose t o
    let limit := o.callTimeoutMs
    let ended := orchestrate w team t o (.start world signal)
    let log := w.exchanges world ended.2.queries
    (∀ e ∈ log, ∀ text, Own t strategy e.query → ending limit e.reply = .panic text →
      (0 < e.reply.delay → ended.2.cancelled = false) → Fallen strategy ended.1) ∧
    (∀ text, strategy = .iterative → t.blank = false → team.declarations = .panic text →
      Fallen strategy ended.1) ∧
    (∀ text, t.blank = false →
      (play w team strategy t o (.start world signal)).1 = .panic text →
        (strategy = .iterative ∧ team.declarations = .panic text) ∨
          ∃ e ∈ log, Own t strategy e.query ∧ ending limit e.reply = .panic text) ∧
    (∀ w', Soothes (Debating.Wordless t) w w' →
      (∀ names, (Debating.hold t names o).run w' limit (.start world signal) =
        (Debating.hold t names o).run w limit (.start world signal)) ∧
      (strategy = .debate → orchestrate w' team t o (.start world signal) = ended)) ∧
    (strategy = .treeSearch → t.blank = false → ∃ s e, ended.1 = TreeSearch.conclude s e ∧
      TreeSearch.Descends w limit team t (TreeSearch.bounds o) 0 (max o.maxDepth 1) (.start t)
        (.start world signal) (s, e) ended.2) := by
  intro strategy limit ended log
  refine ⟨?_, ?_, ?_, ?_, ?_⟩
  · exact fun e he text hown ht hlive => fallen_of_exchange he hown ht hlive
  · intro text hs hb hd
    have hplay : (play w team (team.choose t o) t o (.start world signal)).1 = .panic text := by
      rw [show team.choose t o = .iterative from hs, play_of_declarations hd]
    exact fallen_of_panic hb hplay
  · exact fun text hb h => cause_of_panic hb h
  · intro w' hw
    refine ⟨fun names => ?_, fun hs => orchestrate_soothed hw hs⟩
    exact (Debating.hold_tolerates t names o).run_eq hw limit _
  · exact fun hs hb => orchestrate_descends w _ hb hs

def losing (n : Nat) : World Nat where
  respond q i :=
    let r := if i = n then ⟨none, 0, .panic "backend lost"⟩
      else ((World.echo "1. Red\n2. Blue").respond q ()).1
    (r, i + 1)

-- The second debater is lost, or the worker at the first of two nodes; the others go on.
theorem panics_contained_lost :
    let bare : Team := { Team.unaided with declarations := .panic "registry lost" }
    let t := Task.ofDescription "Name a colour"
    let o := Options.withStrategy
      { Options.default with maxRounds := 1, debaterCount := 2, maxDepth := 2, branchFactor := 2 }
    let begun := Session.start 0 none
    let fallen := orchestrate (losing 0) .unaided t (o .reflexive) begun
    let debated := orchestrate (losing 1) .unaided t (o .debate) begun
    let searched := orchestrate (losing 3) .unaided t (o .treeSearch) begun
    let attempt := Query.complete (Reflexive.attemptRequest t [])
    (fallen.2.queries = [attempt] ∧ Own t .reflexive attempt ∧ Fallen .reflexive fallen.1) ∧
      (bare.declarations = .panic "registry lost" ∧
        Fallen .iterative (orchestrate (losing 0) bare t (o .iterative) begun).1) ∧
      ((play (losing 0) .unaided .reflexive t (o .reflexive) begun).1 = .panic "backend lost" ∧
        ∃ e ∈ (losing 0).exchanges 0 fallen.2.queries, Own t .reflexive e.query ∧
          ending 60000 e.reply = .panic "backend lost") ∧
      (Soothes (Debating.Wordless t) (losing 1) (Debating.quieted t (losing 1)) ∧
        orchestrate (Debating.quieted t (losing 1)) .unaided t (o .debate) begun = debated ∧
        debated.1.succeeded = true ∧ (debated.1.trace.stepsIn .argue).map Step.content =
          ["[Round 1] Debater 1 (Pragmatist): 1. Red\n2. Blue"]) ∧
      t.blank = false ∧ (∃ s e, searched.1 = TreeSearch.conclude s e ∧
        TreeSearch.Descends (losing 3) 60000 .unaided t (TreeSearch.bounds (o .treeSearch)) 0 2
          (.start t) begun (s, e) searched.2) ∧
        searched.1.succeeded = true ∧ (searched.1.trace.stepsIn .expand).map Step.content =
          ["Node 0 expanded into 2 candidates: Red | Blue",
            "Node 2 expanded into 2 candidates: Red | Blue"] := by
  intro bare t o begun fallen debated searched attempt
  have hb : (Task.ofDescription "Name a colour").blank = false := by decide
  obtain ⟨hfatal, -, hcause, -, -⟩ :=
    panics_contained (losing 0) .unaided t (o .reflexive) 0 none
  obtain ⟨-, hbare, -, -, -⟩ := panics_contained (losing 0) bare t (o .iterative) 0 none
  obtain ⟨-, -, -, hsoothed, -⟩ := panics_contained (losing 1) .unaided t (o .debate) 0 none
  obtain ⟨-, -, -, -, hsearch⟩ := panics_contained (losing 3) .unaided t (o .treeSearch) 0 none
  have hlog : fallen.2.queries = [attempt] :=
    congrArg Session.queries (session_orchestrate (losing 0) .unaided (o .reflexive) begun hb)
  have hmild : Soothes (Debating.Wordless t) (losing 1) (Debating.quieted t (losing 1)) :=
    Debating.soothes_quieted t (losing 1)
  have hdebated : (((Debating.hold t (Debating.debaters (o .debate)) (o .debate)).bind fun r =>
      Program.done r.result).runIn? (losing 1) 60000 0 begun).bind (fun out =>
        out.1.value?.map fun r => (r.succeeded, (r.trace.stepsIn .argue).map Step.content)) =
          some (true, ["[Round 1] Debater 1 (Pragmatist): 1. Red\n2. Blue"]) := by
    rw [Debating.hold, show max (o .debate).maxRounds 1 = 1 from rfl]
    simp only [Debating.rounds, Debating.heard, inOrder_eq_insertionSort]
    decide +kernel
  have hsearched : (((TreeSearch.search .unaided t (o .treeSearch)).bind fun r =>
      Program.done r.1).runIn? (losing 3) 60000 0 begun).bind (fun out =>
        out.1.value?.map fun r => (r.succeeded, (r.trace.stepsIn .expand).map Step.content)) =
          some (true, ["Node 0 expanded into 2 candidates: Red | Blue",
            "Node 2 expanded into 2 candidates: Red | Blue"]) := by
    rw [TreeSearch.search, show max (o .treeSearch).maxDepth 1 = 2 from rfl]
    simp only [TreeSearch.explore, TreeSearch.State.retain, TreeSearch.conclude,
      TreeSearch.failure?, Search.Tree.best?, inOrder_eq_insertionSort,
      Search.ranking_eq_insertionSort]
    decide +kernel
  refine ⟨⟨hlog, trivial, ?_⟩, ⟨rfl, hbare _ rfl hb rfl⟩, ⟨rfl, ?_⟩, ⟨hmild, ?_, ?_⟩, hb, ?_, ?_⟩
  · refine hfatal ⟨attempt, ⟨none, 0, .panic "backend lost"⟩⟩ ?_ "backend lost" trivial rfl
      fun h => absurd h (Nat.lt_irrefl 0)
    rw [show (orchestrate (losing 0) .unaided t (o .reflexive) (.start 0 none)).2.queries = _
      from hlog]
    exact List.mem_cons_self
  · exact (hcause "backend lost" hb rfl).resolve_left fun h => Strategy.noConfusion h.1
  · exact (hsoothed _ hmild).2 rfl
  · obtain ⟨r, hr, hshown⟩ := Program.value_of_runIn? hdebated
    rw [show debated.1 = r from orchestrate_of_value hb hr]
    exact Prod.mk.inj hshown
  · exact hsearch rfl hb
  · obtain ⟨r, hr, hshown⟩ := Program.value_of_runIn? hsearched
    rw [show searched.1 = r from orchestrate_of_value hb hr]
    exact Prod.mk.inj hshown

end Deliberation.Engine
