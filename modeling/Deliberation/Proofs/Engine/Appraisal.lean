import Deliberation.Proofs.Engine.Survival

namespace Deliberation.Engine.TreeSearch

open Run Search

def finite? (x : Float) : Option Float :=
  if x.isFinite then some (Number.clamp x) else none

/-- The score that an evaluation with this reply leaves a candidate: the one that is read from its
text, the rule's if there is none or if the evaluation fails, and none at all if it overruns. -/
inductive Appraised (limit : Nat) (t : Task) (candidate : String)
    (r : Reply (Except Failure Completion)) : Option Float → Prop
  | read {c : Completion} {x : Float} (h : ending limit r = .value (.ok (.ok c)))
      (hx : Reply.score? c.text = some x) : Appraised limit t candidate r (finite? x)
  | unread {c : Completion} (h : ending limit r = .value (.ok (.ok c)))
      (hx : Reply.score? c.text = none) :
      Appraised limit t candidate r (finite? (heuristicScore candidate t))
  | failed {f : Failure} (h : ending limit r = .value (.ok (.error f))) :
      Appraised limit t candidate r (finite? (heuristicScore candidate t))
  | overran (h : limit < r.delay) : Appraised limit t candidate r none

variable {limit count : Nat} {t : Task} {team : Team} {b : Bounds} {candidate : String}
  {r : Reply (Except Failure Completion)} {score : Option Float}

def regarded (t : Task) (candidate : String) (a : Except Failure (Except Failure Completion)) :
    Except Failure (Option Float) :=
  finiteScore (a.map (backendScore t candidate))

theorem appraised_iff : Appraised limit t candidate r score ↔
    ∃ a, ending limit r = .value a ∧ regarded t candidate a = .ok score := by
  constructor
  · intro h
    cases h with
    | read h hx =>
      refine ⟨_, h, ?_⟩
      rw [regarded, Except.map, backendScore, hx]
      rfl
    | unread h hx =>
      refine ⟨_, h, ?_⟩
      rw [regarded, Except.map, backendScore, hx]
      rfl
    | failed h => exact ⟨_, h, rfl⟩
    | overran h => exact ⟨_, ending_of_lt h, rfl⟩
  · rintro ⟨a, ha, hscore⟩
    match a with
    | .ok (.ok c) =>
      rw [regarded, Except.map, backendScore] at hscore
      cases hx : Reply.score? c.text with
      | some x =>
        rw [hx] at hscore
        cases hscore
        exact .read ha hx
      | none =>
        rw [hx] at hscore
        cases hscore
        exact .unread ha hx
    | .ok (.error f) =>
      cases hscore
      exact .failed ha
    | .error f =>
      obtain ⟨hdelay, rfl⟩ := ending_eq_error ha
      cases hscore
      exact .overran hdelay

theorem Appraised.unique {score score' : Option Float} (h : Appraised limit t candidate r score)
    (h' : Appraised limit t candidate r score') : score' = score := by
  obtain ⟨a, ha, hscore⟩ := appraised_iff.1 h
  obtain ⟨a', ha', hscore'⟩ := appraised_iff.1 h'
  cases ha.symm.trans ha'
  cases hscore.symm.trans hscore'
  rfl

section Log

variable {log : List Exchange} {l : List Query} {c : Prop}

def Scores (limit : Nat) (t : Task) (log : List Exchange) (candidate : String)
    (score : Option Float) : Prop :=
  ∃ reply, (⟨.complete (evaluationRequest t candidate), reply⟩ : Exchange) ∈ log ∧
    Appraised limit t candidate reply score

theorem evaluate_scores (hteam : team.evaluator = .backend) {x : Except Failure Float}
    (h : (evaluate team t candidate).Ends (.ofLog limit log c) l (.value x))
    (hx : finiteScore x = .ok score) : Scores limit t log candidate score := by
  rw [evaluate, hteam] at h
  cases h.guarded with
  | refused _ h =>
    cases h
    cases hx
  | lost _ h =>
    cases h
    cases hx
  | answered ha h =>
    cases h
    obtain ⟨reply, hm, hreply⟩ := ha
    exact ⟨reply, hm, appraised_iff.2 ⟨_, hreply, hx⟩⟩

theorem scoreAll_scores (hteam : team.evaluator = .backend) {cs : List String}
    {scored : List (String × Option Float)}
    (h : (scoreAll team t cs).Ends (.ofLog limit log c) l (.value (.ok scored))) :
    ∀ c ∈ scored, Scores limit t log c.1 c.2 := by
  induction cs generalizing l scored with
  | nil =>
    cases h
    exact List.forall_mem_nil _
  | cons c cs ih =>
    obtain ⟨x, m, n, rfl, hx, h⟩ := Process.ends_bind_value h
    cases hscore : finiteScore x with
    | error f =>
      rw [hscore] at h
      cases h
    | ok score =>
      rw [hscore] at h
      obtain ⟨rest, m', n', rfl, hrest, h⟩ := Process.ends_bind_value h
      cases rest with
      | error f => cases h
      | ok rest =>
        cases h
        exact List.forall_mem_cons.2 ⟨evaluate_scores hteam hx hscore, ih hrest⟩

theorem expand_scores (hteam : team.evaluator = .backend) {path : List String}
    {scored : List (String × Option Float)}
    (h : (expand team t count path).Ends (.ofLog limit log c) l (.value (.ok scored))) :
    ∀ c ∈ scored, Scores limit t log c.1 c.2 := by
  obtain ⟨reply, m, n, rfl, -, h⟩ := Process.ends_bind_value h
  split at h
  · cases h
  · exact scoreAll_scores hteam h

def Accounted (limit : Nat) (t : Task) (log : List Exchange) (tree : Tree) : Prop :=
  ∀ n ∈ tree.nodes, (n.parent = none ∧ n.score = none) ∨ ∃ score,
    Scores limit t log n.content score ∧ n.score = (score.map Score.ofFloat).map Score.clamped

theorem accounted_ofRoot (content : String) : Accounted limit t log (.ofRoot content) := by
  intro n hn
  rw [List.mem_singleton.1 hn]
  exact .inl ⟨rfl, rfl⟩

theorem Accounted.grow {tree : Tree} (h : Accounted limit t log tree) (d : Nat)
    {cs : List (Nat × String × Option Float)}
    (hcs : ∀ c ∈ cs, Scores limit t log c.2.1 c.2.2) :
    Accounted limit t log (tree.grow d cs) := by
  intro n hn
  rcases List.mem_append.1 hn with hn | hn
  · exact h n hn
  · obtain ⟨c, hc, id, rfl⟩ := exists_sprout hn
    exact .inr ⟨c.2.2, hcs c hc, rfl⟩

theorem workers_score (hteam : team.evaluator = .backend) {s : State}
    {rs : List (Option (Nat × Expansion))} {joined : List (Nat × Expansion)}
    (h : Joined (.ofLog limit log c) team t b s l rs joined) :
    ∀ y ∈ joined.flatMap offspring, Scores limit t log y.2.1 y.2.2 := by
  intro y hy
  obtain ⟨⟨id, x⟩, hx, hy⟩ := List.mem_flatMap.1 hy
  obtain ⟨-, cs, rfl, hm⟩ := mem_offspring hy
  obtain ⟨_, -, _, hnode⟩ := h.together.of_map.exists_of_mem (h.mem hx)
  obtain ⟨_, _, _, -, hexpand, hdone⟩ := Process.ends_bind_value hnode
  cases hdone
  exact expand_scores hteam hexpand y.2 hm

-- By induction on the depths left: each depth only adds what its workers have had evaluated.
theorem explore_accounts (hteam : team.evaluator = .backend) {d depths : Nat} {s s' : State}
    (hs : Standing d s) (hn : Accounted limit t log s.tree) {f : Option Failure}
    (h : (explore team t b depths s).Ends (.ofLog limit log c) l (.value (s', f))) :
    Accounted limit t log s'.tree := by
  induction depths generalizing d s l with
  | zero =>
    cases (Program.ends_done_iff.1 h).2
    exact hn
  | succ depths ih =>
    obtain ⟨-, -, ho⟩ | ⟨ho, -⟩ | ⟨rs, joined, m, n, rfl, hw, s₁, rfl, h⟩ := explore_ends h
    · cases ho
      exact hn
    · cases ho
      exact hn
    · have hr : Returned s.frontier (inOrder joined) := hw.returned.perm (inOrder_perm joined)
      have hgrown : Accounted limit t log (s.enterAll (inOrder joined)).tree := by
        rw [(hs.grows hr).1]
        refine hn.grow d fun y hy => workers_score hteam hw y ?_
        exact ((inOrder_perm joined).flatMap_right offspring).mem_iff.1 hy
      obtain ⟨-, -, ho⟩ | ⟨-, h⟩ := h
      · cases ho
        exact hgrown
      · exact ih (hs.next hr b.beam) hgrown h

theorem search_accounts (hteam : team.evaluator = .backend) {o : Options} {x : Result}
    {tree : Tree} (h : (search team t o).Ends (.ofLog limit log c) l (.value (x, tree))) :
    Accounted limit t log tree := by
  obtain ⟨⟨s, f⟩, m, n, rfl, hs, h⟩ := Program.ends_bind_value h
  cases (Program.ends_done_iff.1 h).2
  exact explore_accounts hteam (standing_start t) (accounted_ofRoot _) hs

theorem search_accounted {σ : Type} (w : World σ) (hteam : team.evaluator = .backend) {o : Options}
    (world : σ) (signal : Option Nat) {x : Result} {tree : Tree}
    (h : ((search team t o).run w limit (.start world signal)).1 = .value (x, tree)) :
    Accounted limit t (w.exchanges world
      ((search team t o).run w limit (.start world signal)).2.queries) tree := by
  obtain ⟨l, hl, hends⟩ := (search team t o).run_ends_logged (w := w)
    (.start world signal) (c := True) fun _ => trivial
  obtain rfl : _ = l := hl
  exact search_accounts hteam (h ▸ hends)

end Log

end Deliberation.Engine.TreeSearch
