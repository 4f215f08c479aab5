import Deliberation.Proofs.Engine.Beam
import Deliberation.Proofs.Engine.Pacing
import Deliberation.Proofs.Engine.Survival
import Deliberation.Proofs.Run.Determinism
import Deliberation.Proofs.Search.Improvement

namespace Deliberation.Engine.TreeSearch

open Run Search

variable {e : Surroundings} {l : List Query} {team : Team} {t : Task} {b : Bounds}

theorem exceeds_of_le {s : State} {f f' : Float} (hf : f ≤ f') (h : s.exceeds f' = true) :
    s.exceeds f = true := by
  obtain ⟨n, hn, hx⟩ := List.any_eq_true.1 h
  obtain ⟨x, hscore, hx⟩ := (Option.any_eq_true _ _).1 hx
  refine List.any_eq_true.2 ⟨n, hn, (Option.any_eq_true _ _).2 ⟨x, hscore, ?_⟩⟩
  exact decide_eq_true (Number.lt_of_le_of_lt hf (of_decide_eq_true hx))

structure Extends (s s' : State) : Prop where
  nodes : s.tree.nodes <+: s'.tree.nodes
  steps : s.trace.steps <+: s'.trace.steps

namespace Extends

theorem refl (s : State) : Extends s s :=
  ⟨List.prefix_refl _, List.prefix_refl _⟩

theorem trans {s s' s'' : State} (h : Extends s s') (h' : Extends s' s'') : Extends s s'' :=
  ⟨h.nodes.trans h'.nodes, h.steps.trans h'.steps⟩

theorem of_retain {s s' : State} {width : Nat} (h : Extends (s.retain width) s') : Extends s s' :=
  ⟨h.nodes, h.steps⟩

end Extends

theorem Deepens.extends {d : Nat} {s s₁ : State} {kept : List (Nat × Expansion)}
    (h : Deepens d s s₁ kept) : Extends s s₁ := by
  refine ⟨?_, ?_⟩
  · rw [h.nodes]
    exact List.prefix_append _ _
  · rw [h.steps, List.append_assoc]
    exact List.prefix_append _ _

theorem explore_barren {depths : Nat} {s : State} {o : Outcome (State × Option Failure)}
    (hf : s.frontier = []) (h : (explore team t b depths s).Ends e l o) : o = .value (s, none) := by
  cases depths with
  | zero => exact (Program.ends_done_iff.1 h).2
  | succ depths =>
    rw [explore, if_pos (List.isEmpty_iff.2 hf)] at h
    exact (Program.ends_done_iff.1 h).2

theorem explore_deepens (he : Steadfast e) {depths : Nat} {s : State}
    {o : Outcome (State × Option Failure)} (hf : s.frontier ≠ [])
    (h : (explore team t b (depths + 1) s).Ends e l o) :
    ∃ rs joined m n, Joined e team t b s m rs joined ∧
      ∃ s₁, s₁ = s.enterAll (inOrder joined) ∧
        ((s₁.exceeds b.floor = true ∧ o = .value (s₁, none)) ∨
          (s₁.exceeds b.floor = false ∧
            (explore team t b depths (s₁.retain b.beam)).Ends e n o)) := by
  rcases explore_ends h with ⟨hb, -, -⟩ | ⟨-, hc⟩ | ⟨rs, joined, m, n, -, hw, s₁, hs₁, h⟩
  · exact absurd hb hf
  · exfalso
    rcases hc with hc | ⟨rs, joined, m, hw, x, hx, hxc⟩
    · exact he.uncancelled hc
    · exact (workers_yield he hw x hx).uncancelled (isCancelled_iff.1 hxc)
  · exact ⟨rs, joined, m, n, hw, s₁, hs₁, h.imp (fun h => ⟨h.1, h.2.2⟩) id⟩

theorem Standing.descend {d : Nat} {s : State} (hs : Standing d s)
    {rs : List (Option (Nat × Expansion))} {joined : List (Nat × Expansion)}
    (h : Joined e team t b s l rs joined) (width : Nat) :
    Standing (d + 1) ((s.enterAll (inOrder joined)).retain width) :=
  hs.next (h.returned.perm (inOrder_perm joined)) width

theorem explore_extends (he : Steadfast e) {d depths : Nat} {s : State} (hs : Standing d s)
    {o : Outcome (State × Option Failure)} (h : (explore team t b depths s).Ends e l o) :
    ∃ s', o = .value (s', none) ∧ Extends s s' := by
  induction depths generalizing d s l with
  | zero => exact ⟨s, (Program.ends_done_iff.1 h).2, .refl s⟩
  | succ depths ih =>
    by_cases hf : s.frontier = []
    · exact ⟨s, explore_barren hf h, .refl s⟩
    · obtain ⟨_, _, _, _, hw, s₁, rfl, ⟨-, rfl⟩ | ⟨-, h⟩⟩ := explore_deepens he hf h
      · exact ⟨_, rfl, (hs.deepens hw.returned).extends⟩
      · obtain ⟨s', rfl, hs'⟩ := ih (hs.descend hw b.beam) h
        exact ⟨s', rfl, (hs.deepens hw.returned).extends.trans hs'.of_retain⟩

theorem Joined.inOrder_eq (hu : Settled e Consults) {b' : Bounds} {d : Nat} {s : State}
    (hs : Standing d s) {l' : List Query} {rs rs' : List (Option (Nat × Expansion))}
    {joined joined' : List (Nat × Expansion)} (h : Joined e team t b s l rs joined)
    (h' : Joined e team t b' s l' rs' joined') (hb : b.branch = b'.branch) :
    inOrder joined = inOrder joined' := by
  have hworkers : workers team t b' s = workers team t b s := by
    rw [workers, workers, hb]
  have hrs : rs = rs' :=
    h.together.ends_unique hu (workers_consult team t b s) (hworkers ▸ h'.together)
  refine inOrder_eq_of_perm (h.perm.trans ?_) (h.returned.nodup hs.nodup)
  rw [hrs]
  exact h'.perm.symm

-- By induction on the depths of the shorter search: as long as both go on they stand alike, and
-- where the shorter one stops the other can only add.
theorem explore_anytime (he : Steadfast e) (hu : Settled e Consults) {f f' : Float} (hf : f ≤ f')
    {d depths depths' : Nat} (hd : depths ≤ depths') {s : State} (hs : Standing d s)
    {l' : List Query} {o o' : Outcome (State × Option Failure)}
    (h : (explore team t { b with floor := f } depths s).Ends e l o)
    (h' : (explore team t { b with floor := f' } depths' s).Ends e l' o') :
    ∃ s₁ s₂, o = .value (s₁, none) ∧ o' = .value (s₂, none) ∧ Extends s₁ s₂ := by
  induction depths generalizing d depths' s l l' with
  | zero =>
    obtain ⟨s', rfl, hext⟩ := explore_extends he hs h'
    exact ⟨s, s', (Program.ends_done_iff.1 h).2, rfl, hext⟩
  | succ depths ih =>
    obtain ⟨depths', rfl⟩ : ∃ n, depths' = n + 1 := ⟨depths' - 1, by omega⟩
    by_cases hb : s.frontier = []
    · exact ⟨s, s, explore_barren hb h, explore_barren hb h', .refl s⟩
    · obtain ⟨_, joined, _, _, hw, s₁, rfl, h⟩ := explore_deepens he hb h
      obtain ⟨_, joined', _, _, hw', s₂, rfl, h'⟩ := explore_deepens he hb h'
      rw [← hw.inOrder_eq hu hs hw' rfl] at h'
      rcases h with ⟨-, rfl⟩ | ⟨hx, h⟩
      · rcases h' with ⟨-, rfl⟩ | ⟨-, h'⟩
        · exact ⟨_, _, rfl, rfl, .refl _⟩
        · obtain ⟨s', rfl, hext⟩ := explore_extends he (hs.descend hw b.beam) h'
          exact ⟨_, s', rfl, rfl, hext.of_retain⟩
      · rcases h' with ⟨hx', -⟩ | ⟨-, h'⟩
        · rw [exceeds_of_le hf hx'] at hx
          cases hx
        · exact ih (Nat.le_of_succ_le_succ hd) (hs.descend hw b.beam) h h'

def growthSteps (t : Trace) : List Step :=
  t.steps.filter fun step => step.stage = .expand ∨ step.stage = .evaluate

theorem growthSteps_record_halt (t : Trace) (reason : String) :
    growthSteps (t.record .halt reason) = growthSteps t := by
  rw [growthSteps, Trace.steps_record, List.filter_append]
  exact List.append_nil _

theorem growthSteps_build (strategy : Strategy) (answer : String) (x : Float) (t : Trace)
    (succeeded : Bool) :
    growthSteps (Result.build strategy answer x t succeeded).trace = growthSteps t := by
  rw [Result.build]
  dsimp only
  split
  · exact growthSteps_record_halt t _
  · rfl

theorem growthSteps_conclude (s : State) (e : Option Failure) :
    growthSteps (conclude s e).trace = growthSteps s.trace := by
  rw [conclude]
  split
  · exact (growthSteps_build _ _ _ _ _).trans (growthSteps_record_halt _ _)
  · exact (growthSteps_build _ _ _ _ _).trans (growthSteps_record_halt _ _)
  · exact growthSteps_build _ _ _ _ _
  · exact (growthSteps_build _ _ _ _ _).trans (growthSteps_record_halt _ _)

theorem inUnit_build (strategy : Strategy) (answer : String) (x : Float) (t : Trace)
    (succeeded : Bool) : Number.InUnit (Result.build strategy answer x t succeeded).confidence :=
  Number.inUnit_normalize x

theorem inUnit_conclude (s : State) (e : Option Failure) :
    Number.InUnit (conclude s e).confidence := by
  rw [conclude]
  split <;> exact inUnit_build _ _ _ _ _

theorem confidence_of_unscored {s : State} (hb : s.tree.best? = none) :
    (conclude s none).confidence = 0.0 := by
  have hz : Number.normalize 0.0 = 0.0 := Number.normalize_of_inUnit Number.inUnit_zero
  rw [conclude, hb]
  split
  · exact hz
  · exact hz
  · next h => cases h
  · exact hz

theorem confidence_of_best {s : State} (hs : s.tree.Grown) {n : Node} {x : Score}
    (hb : s.tree.best? = some n) (hx : n.score = some x) :
    (conclude s none).confidence = x.value := by
  rw [conclude_of_best hb hx]
  exact Number.normalize_of_inUnit (hs.scored n (best?_eq_some hs.nodup_ids hb).1 x hx)

structure Improves (r : Result) (tree : Tree) (r' : Result) (tree' : Tree) : Prop where
  nodes : tree.nodes <+: tree'.nodes
  steps : growthSteps r.trace <+: growthSteps r'.trace
  confidence : r.confidence ≤ r'.confidence

theorem Extends.improves {s s' : State} (h : Extends s s') (hs : s.tree.Grown)
    (hs' : s'.tree.Grown) : Improves (conclude s none) s.tree (conclude s' none) s'.tree where
  nodes := h.nodes
  steps := by
    rw [growthSteps_conclude, growthSteps_conclude]
    exact h.steps.filter _
  confidence := by
    cases hb : s.tree.best? with
    | none =>
      rw [confidence_of_unscored hb]
      exact (inUnit_conclude s' none).zero_le
    | some m =>
      have hm := (best?_eq_some hs.nodup_ids hb).2.1
      obtain ⟨x, hx⟩ := Option.isSome_iff_exists.1 hm
      obtain ⟨n, y, hn, hy, hle⟩ := hs'.best?_improves h.nodes hb hx
      rw [confidence_of_best hs hb hx, confidence_of_best hs' hn hy]
      exact hle

variable {σ : Type}

theorem search_ends (w : World σ) (team : Team) (t : Task) (o : Options) (x : Session σ)
    (hc : ((search team t o).run w o.callTimeoutMs x).2.cancelled = false) :
    ∃ l out, (explore team t (bounds o) (max o.maxDepth 1) (.start t)).Ends
        (w.surroundings o.callTimeoutMs False) l out ∧
      ∀ s e, out = .value (s, e) →
        ((search team t o).run w o.callTimeoutMs x).1 = .value (conclude s e, s.tree) := by
  obtain ⟨l, -, he⟩ := (search team t o).run_ends_uncancelled x hc
  rcases Program.ends_bind he with ⟨⟨s, e⟩, m, n, -, hx, hn⟩ | ⟨text, -, hp⟩
  · refine ⟨m, _, hx, fun s' e' ho => ?_⟩
    cases ho
    exact (Program.ends_done_iff.1 hn).2
  · exact ⟨l, _, hp, fun _ _ ho => nomatch ho⟩

theorem search_anytime (w : World σ) (team : Team) (t : Task) (o : Options) {d d' : Nat}
    {f f' : Float} (hd : d ≤ d') (hf : f ≤ f') (hr : w.Repeats Consults)
    (hw : ∀ r s, (w.respond (.complete r) s).1.outcome ≠ .value (.error .cancelled))
    (x x' : Session σ)
    (hc : ((search team t { o with maxDepth := d, confidenceFloor := f }).run w o.callTimeoutMs
      x).2.cancelled = false)
    (hc' : ((search team t { o with maxDepth := d', confidenceFloor := f' }).run w o.callTimeoutMs
      x').2.cancelled = false) :
    ∃ r tree r' tree',
      ((search team t { o with maxDepth := d, confidenceFloor := f }).run w o.callTimeoutMs
        x).1 = .value (r, tree) ∧
      ((search team t { o with maxDepth := d', confidenceFloor := f' }).run w o.callTimeoutMs
        x').1 = .value (r', tree') ∧
      Improves r tree r' tree' := by
  obtain ⟨l, out, h, hrun⟩ :=
    search_ends w team t { o with maxDepth := d, confidenceFloor := f } x hc
  obtain ⟨l', out', h', hrun'⟩ :=
    search_ends w team t { o with maxDepth := d', confidenceFloor := f' } x' hc'
  have he : Steadfast (w.surroundings o.callTimeoutMs False) := steadfast_surroundings hw _
  have hu := settled_surroundings hr o.callTimeoutMs
  have hdepths : max d 1 ≤ max d' 1 := by omega
  obtain ⟨s, s', rfl, rfl, hext⟩ :=
    explore_anytime (b := bounds o) he hu hf hdepths (standing_start t) h h'
  have hg {b : Bounds} {depths : Nat} {l : List Query} {s : State} (hpos : 0 < depths)
      (h : (explore team t b depths (.start t)).Ends (w.surroundings o.callTimeoutMs False) l
        (.value (s, none))) : s.tree.Grown := by
    obtain ⟨_, _, ho, hreach⟩ := explore_reaches he (by omega) (level_start b t) h
    cases ho
    exact hreach.grown
  exact ⟨_, _, _, _, hrun s none rfl, hrun' s' none rfl,
    hext.improves (hg (by omega) h) (hg (by omega) h')⟩

theorem search_anytime_palette :
    let t := Task.ofDescription "Name a colour"
    let o := { Options.default with branchFactor := 2 }
    ∃ r tree r' tree',
      ((search judged t { o with maxDepth := 1, confidenceFloor := 0.5 }).run palette
        o.callTimeoutMs (.start () none)).1 = .value (r, tree) ∧
      ((search judged t { o with maxDepth := 3, confidenceFloor := 0.9 }).run palette
        o.callTimeoutMs (.start () none)).1 = .value (r', tree') ∧
      Improves r tree r' tree' ∧ r.finalAnswer = "Blue" ∧ r.confidence = 0.75 ∧ tree.size = 3 ∧
        r'.finalAnswer = "Teal" ∧ r'.confidence = 0.875 ∧ tree'.size = 11 := by
  intro t o
  have hd : 1 ≤ 3 := by decide
  have hf : (0.5 : Float) ≤ 0.9 := by decide
  have hc : ((search judged t { o with maxDepth := 1, confidenceFloor := 0.5 }).run palette
      o.callTimeoutMs (.start () none)).2.cancelled = false :=
    Program.run_uncancelled calm_palette _ rfl
  have hc' : ((search judged t { o with maxDepth := 3, confidenceFloor := 0.9 }).run palette
      o.callTimeoutMs (.start () none)).2.cancelled = false :=
    Program.run_uncancelled calm_palette _ rfl
  have hw : ∀ r s, (palette.respond (.complete r) s).1.outcome ≠ .value (.error .cancelled) :=
    fun _ _ h => nomatch h
  obtain ⟨r, tree, r', tree', hr, hr', himproves⟩ :=
    search_anytime palette judged t o hd hf (repeats_of_unit _) hw (.start () none) (.start () none)
      hc hc'
  have hshown : ((search judged t { o with maxDepth := 1, confidenceFloor := 0.5 }).runIn? palette
      o.callTimeoutMs 1 (.start () none)).bind
        (fun out => out.1.value?.map fun x => (x.1.finalAnswer, x.1.confidence, x.2.size)) =
          some ("Blue", 0.75, 3) := by
    rw [search, show max (1 : Nat) 1 = 1 from rfl]
    simp only [explore, conclude, failure?, Tree.best?, inOrder_eq_insertionSort,
      ranking_eq_insertionSort]
    decide +kernel
  have hshown' : ((search judged t { o with maxDepth := 3, confidenceFloor := 0.9 }).runIn? palette
      o.callTimeoutMs 2 (.start () none)).bind
        (fun out => out.1.value?.map fun x => (x.1.finalAnswer, x.1.confidence, x.2.size)) =
          some ("Teal", 0.875, 11) := by
    rw [search, show max (3 : Nat) 1 = 3 from rfl]
    simp only [explore, State.retain, conclude, failure?, Tree.best?, inOrder_eq_insertionSort,
      ranking_eq_insertionSort]
    decide +kernel
  obtain ⟨x, hx, hshown⟩ := Program.value_of_runIn? hshown
  obtain ⟨x', hx', hshown'⟩ := Program.value_of_runIn? hshown'
  obtain rfl : (r, tree) = x := Outcome.value.inj (hr.symm.trans hx)
  obtain rfl : (r', tree') = x' := Outcome.value.inj (hr'.symm.trans hx')
  simp only [Prod.mk.injEq] at hshown hshown'
  exact ⟨r, tree, r', tree', hr, hr', himproves, hshown.1, hshown.2.1, hshown.2.2, hshown'⟩

end Deliberation.Engine.TreeSearch
