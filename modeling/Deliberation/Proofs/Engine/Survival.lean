import Deliberation.Proofs.Engine.Depth
import Deliberation.Proofs.Engine.Sound
import Deliberation.Proofs.Run.Panic
import Deliberation.Proofs.Search.Ranking

namespace Deliberation.Engine.TreeSearch

open Run Search

def expandStep : Nat × Expansion → Step
  | (parent, .ok children) => ⟨.expand, State.expanded parent children⟩
  | (parent, .error e) => ⟨.expand, State.notExpanded parent e⟩

def evaluateStep (n : Node) : Step :=
  ⟨.evaluate, State.verdict n⟩

theorem steps_enter (s : State) (parent : Nat) (x : Expansion) :
    (s.enter parent x).trace.steps = s.trace.steps ++ [expandStep (parent, x)] := by
  cases x with
  | ok children =>
    rw [State.enter, trace_addAll]
    rfl
  | error e => rfl

theorem steps_enterAll (s : State) (xs : List (Nat × Expansion)) :
    (s.enterAll xs).trace.steps =
      s.trace.steps ++ xs.map expandStep ++ (s.enterAll xs).createdNodes.map evaluateStep := by
  have hfold (s : State) : (xs.foldl (fun s x => s.enter x.1 x.2) s).trace.steps =
      s.trace.steps ++ xs.map expandStep := by
    induction xs generalizing s with
    | nil => exact (List.append_nil _).symm
    | cons x xs ih =>
      rw [List.foldl_cons, ih, steps_enter, List.append_assoc]
      rfl
  have hsteps := hfold { s with created := [] }
  rw [State.enterAll]
  dsimp only [Trace.recordAll]
  rw [List.map_map]
  exact congrArg (· ++ _) hsteps

structure Deepens (d : Nat) (s s₁ : State) (kept : List (Nat × Expansion)) : Prop where
  ascending : kept.Pairwise fun x y => x.1 < y.1
  steps : s₁.trace.steps =
    s.trace.steps ++ kept.map expandStep ++ (brood d s.tree.size (kept.flatMap offspring)).map
      evaluateStep
  nodes : s₁.tree.nodes = s.tree.nodes ++ brood d s.tree.size (kept.flatMap offspring)
  childless : ∀ id, id ∉ kept.map Prod.fst → s₁.tree.children id = s.tree.children id

structure Survives (frontier : List Nat) (os : List (Outcome (Nat × Expansion)))
    (kept : List (Nat × Expansion)) : Prop where
  complete : os.length = frontier.length
  kept_iff : ∀ id x, (id, x) ∈ kept ↔
    ∃ i : Nat, frontier[i]? = some id ∧ os[i]? = some (.value (id, x))
  lost : ∀ (i id : Nat) text, frontier[i]? = some id → os[i]? = some (.panic text) →
    id ∉ kept.map Prod.fst

theorem survives_inOrder {frontier : List Nat} (hn : frontier.Nodup)
    {os : List (Outcome (Nat × Expansion))}
    (hos : List.Forall₂ (fun id o => ∀ x, o = .value x → x.1 = id) frontier os)
    {joined : List (Nat × Expansion)} (hj : joined.Perm (os.filterMap Outcome.value?)) :
    Survives frontier os (inOrder joined) := by
  have hkept : ∀ id x, (id, x) ∈ inOrder joined ↔
      ∃ i : Nat, frontier[i]? = some id ∧ os[i]? = some (.value (id, x)) := by
    intro id x
    rw [mem_inOrder, hj.mem_iff, List.mem_filterMap]
    constructor
    · rintro ⟨o, ho, hvalue⟩
      obtain rfl := Outcome.value?_eq_some.1 hvalue
      obtain ⟨i, hi, ho⟩ := List.getElem_of_mem ho
      have hlt : i < frontier.length := hos.length_eq ▸ hi
      have hid : id = frontier[i] := List.forall₂_iff_get.1 hos |>.2 i hlt hi _ ho
      exact ⟨i, by rw [hid, List.getElem?_eq_getElem hlt], by rw [← ho, List.getElem?_eq_getElem hi]⟩
    · rintro ⟨i, -, ho⟩
      exact ⟨_, List.mem_of_getElem? ho, rfl⟩
  refine ⟨hos.length_eq.symm, hkept, fun i id text hi hpanic hm => ?_⟩
  obtain ⟨⟨_, x⟩, hx, rfl⟩ := List.mem_map.1 hm
  obtain ⟨j, hj, hvalue⟩ := (hkept _ _).1 hx
  obtain ⟨hlt, -⟩ := List.getElem?_eq_some_iff.1 hi
  -- no node has two workers
  obtain rfl : i = j := (List.getElem?_inj hlt hn).1 (hi.trans hj.symm)
  cases hpanic.symm.trans hvalue

theorem Standing.deepens {d : Nat} {s : State} (hs : Standing d s) {joined : List (Nat × Expansion)}
    (hr : Returned s.frontier joined) :
    Deepens d s (s.enterAll (inOrder joined)) (inOrder joined) := by
  obtain ⟨htree, hcreated⟩ := hs.grows (hr.perm (inOrder_perm joined))
  refine ⟨ascending_inOrder (hr.nodup hs.nodup), ?_, congrArg Tree.nodes htree, fun id hid => ?_⟩
  · rw [steps_enterAll, hcreated]
  · rw [htree]
    exact Tree.children_grow_of_not_mem _ _ (children_offspring_eq_nil hid)

variable {σ : Type}

def Expands (t : Task) (b : Bounds) (s : State) (id : Nat) (q : Query) : Prop :=
  q = .complete (expansionRequest t (s.tree.path id) b.branch) ∨ Judges t q

structure Leaves (w : World σ) (limit : Nat) (team : Team) (t : Task) (b : Bounds) (d : Nat)
    (s : State) (x : Session σ) (s₁ : State) (x₁ : Session σ) : Prop where
  joined : x₁ = (runAll w limit (workers team t b s) x).2
  uncancelled : x₁.cancelled = false
  panics : ∃ l, x₁.queries = x.queries ++ l ∧ ∀ e ∈ w.exchanges x.world l, ∀ text,
    ending limit e.reply = .panic text → ∃ i id : Nat, s.frontier[i]? = some id ∧
      Expands t b s id e.query ∧
      (outcomes w limit (workers team t b s) x)[i]? = some (.panic text)
  deepens : ∃ kept, Survives s.frontier (outcomes w limit (workers team t b s) x) kept ∧
    (∀ y ∈ kept, isCancelled y.2 = false) ∧ s₁ = s.enterAll kept ∧ Deepens d s s₁ kept

inductive Descends (w : World σ) (limit : Nat) (team : Team) (t : Task) (b : Bounds) :
    Nat → Nat → State → Session σ → State × Option Failure → Session σ → Prop
  | bottom (d : Nat) (s : State) (x : Session σ) : Descends w limit team t b d 0 s x (s, none) x
  | barren (d depths : Nat) {s : State} (x : Session σ) (hf : s.frontier = []) :
      Descends w limit team t b d (depths + 1) s x (s, none) x
  | refused (d depths : Nat) (s : State) {x : Session σ} (hc : x.cancelled = true) :
      Descends w limit team t b d (depths + 1) s x (s, some .cancelled) x
  | abandoned (d depths : Nat) {s : State} {x x₁ : Session σ}
      (hx : x₁ = (runAll w limit (workers team t b s) x).2)
      (hc : x₁.cancelled = true ∨
        ∃ id, .value (id, .error .cancelled) ∈ outcomes w limit (workers team t b s) x) :
      Descends w limit team t b d (depths + 1) s x (s, some .cancelled) x₁
  | found {d : Nat} (depths : Nat) {s s₁ : State} {x x₁ : Session σ}
      (h : Leaves w limit team t b d s x s₁ x₁) (hfloor : s₁.exceeds b.floor = true) :
      Descends w limit team t b d (depths + 1) s x (s₁, none) x₁
  | deeper {d depths : Nat} {s s₁ : State} {x x₁ x₂ : Session σ} {out : State × Option Failure}
      (h : Leaves w limit team t b d s x s₁ x₁) (hfloor : s₁.exceeds b.floor = false)
      (hrest : Descends w limit team t b (d + 1) depths (s₁.retain b.beam) x₁ out x₂) :
      Descends w limit team t b d (depths + 1) s x out x₂

variable {w : World σ} {limit : Nat} {team : Team} {t : Task} {b : Bounds}

theorem workers_ask (team : Team) (t : Task) (b : Bounds) (s : State) (i : Nat)
    (p : Process (Nat × Expansion)) (h : (workers team t b s)[i]? = some p) :
    p.Asks fun q => ∃ id, s.frontier[i]? = some id ∧ Expands t b s id q := by
  rw [workers, List.getElem?_map] at h
  obtain ⟨id, hid, rfl⟩ := Option.map_eq_some_iff.1 h
  exact expandNode_asks (fun _ hq => ⟨id, hid, .inr hq⟩) team ⟨id, hid, .inl rfl⟩

theorem returned_workers (w : World σ) (limit : Nat) (team : Team) (t : Task) (b : Bounds)
    (s : State) (x : Session σ) :
    Returned s.frontier (runAll w limit (workers team t b s) x).1 :=
  returned_runAll (workers_numbered team t b s) x

theorem Standing.leaves {d : Nat} {s : State} (hs : Standing d s) {x : Session σ}
    (hc : (runAll w limit (workers team t b s) x).2.cancelled = false)
    (hu : ∀ y ∈ (runAll w limit (workers team t b s) x).1, isCancelled y.2 = false) :
    Leaves w limit team t b d s x
      (s.enterAll (inOrder (runAll w limit (workers team t b s) x).1))
      (runAll w limit (workers team t b s) x).2 := by
  refine ⟨rfl, hc, ?_, _, ?_, fun y hy => hu y (mem_inOrder.1 hy), rfl,
    hs.deepens (returned_workers w limit team t b s x)⟩
  · obtain ⟨l, hl⟩ := runAll_blamed w limit (workers_ask team t b s) x
    refine ⟨l, hl.began.queries, fun e he text ht => ?_⟩
    obtain ⟨i, stop, hi, ⟨id, hid, hq⟩, hd⟩ := hl.dooms hc e he text ht
    rw [List.getElem?_map] at hi
    obtain ⟨o, ho, rfl⟩ := Option.map_eq_some_iff.1 hi
    exact ⟨i, id, hid, hq, ho.trans (congrArg some (Stop.doomed_ofOutcome.1 hd))⟩
  · exact survives_inOrder hs.nodup (outcomes_numbered (workers_numbered team t b s) x)
      (runAll_outcomes _ x)

theorem run_explore (team : Team) (t : Task) (b : Bounds) (depths : Nat) {s : State}
    (hf : s.frontier.isEmpty = false) (x : Session σ) :
    (explore team t b (depths + 1) s).run w limit x =
      let (joined, x₁) := runAll w limit (workers team t b s) x
      let s₁ := s.enterAll (inOrder joined)
      if x.cancelled then (.value (s, some .cancelled), x)
      else if x₁.cancelled || joined.any fun y => isCancelled y.2 then
        (.value (s, some .cancelled), x₁)
      else if s₁.exceeds b.floor then (.value (s₁, none), x₁)
      else (explore team t b depths (s₁.retain b.beam)).run w limit x₁ := by
  rw [explore, if_neg (Bool.eq_false_iff.1 hf)]
  generalize workers team t b s = ps
  simp only [bind, liftM, monadLift, MonadLift.monadLift, Process.cancelled, Program.ofProcess,
    Program.bind, Program.run]
  cases x.cancelled with
  | true => rfl
  | false =>
    simp only [Bool.false_eq_true, ↓reduceIte, Program.together, Program.bind, Program.run]
    generalize runAll w limit ps x = ended
    obtain ⟨joined, x₁⟩ := ended
    cases x₁.cancelled with
    | true => rfl
    | false =>
      simp only [Bool.false_eq_true, ↓reduceIte, Bool.false_or]
      split
      · rfl
      · split <;> rfl

theorem explore_descends (w : World σ) (limit : Nat) (team : Team) (b : Bounds) {d : Nat}
    (depths : Nat) {s : State} (hs : Standing d s) (x : Session σ) :
    ∃ out x', (explore team t b depths s).run w limit x = (.value out, x') ∧
      Descends w limit team t b d depths s x out x' := by
  induction depths generalizing d s x with
  | zero => exact ⟨_, _, rfl, .bottom d s x⟩
  | succ depths ih =>
    cases hf : s.frontier.isEmpty with
    | true =>
      rw [explore, if_pos hf]
      exact ⟨_, _, rfl, .barren d depths x (List.isEmpty_iff.1 hf)⟩
    | false =>
      rw [run_explore team t b depths hf]
      dsimp only
      split
      · next hc => exact ⟨_, _, rfl, .refused d depths s hc⟩
      · split
        · next hc =>
          refine ⟨_, _, rfl, .abandoned d depths rfl ((Bool.or_eq_true_iff.1 hc).imp_right ?_)⟩
          intro hany
          obtain ⟨⟨id, y⟩, hy, hcancelled⟩ := List.any_eq_true.1 hany
          obtain rfl := isCancelled_iff.1 hcancelled
          obtain ⟨o, ho, hvalue⟩ := List.mem_filterMap.1 ((runAll_outcomes _ x).mem_iff.1 hy)
          exact ⟨id, Outcome.value?_eq_some.1 hvalue ▸ ho⟩
        · next hc =>
          obtain ⟨hc, hany⟩ := Bool.or_eq_false_iff.1 (Bool.eq_false_iff.2 hc)
          have hleaves := hs.leaves hc fun y hy => Bool.eq_false_iff.2 (List.any_eq_false.1 hany y hy)
          split
          · next hfloor => exact ⟨_, _, rfl, .found depths hleaves hfloor⟩
          · next hfloor =>
            have hr := (returned_workers w limit team t b s x).perm (inOrder_perm _)
            obtain ⟨out, x', hrun, hrest⟩ := ih (hs.next hr b.beam) _
            exact ⟨out, x', hrun, .deeper hleaves (Bool.eq_false_iff.2 hfloor) hrest⟩

def bounds (o : Options) : Bounds :=
  ⟨max o.branchFactor 1, max o.beamWidth 1, o.confidenceFloor⟩

theorem search_descends (w : World σ) (limit : Nat) (team : Team) (t : Task) (o : Options)
    (x : Session σ) :
    ∃ s e x', (search team t o).run w limit x = (.value (conclude s e, s.tree), x') ∧
      Descends w limit team t (bounds o) 0 (max o.maxDepth 1) (.start t) x (s, e) x' := by
  obtain ⟨⟨s, e⟩, x', hrun, hdescends⟩ :=
    explore_descends w limit team (bounds o) (max o.maxDepth 1) (standing_start t) x
  exact ⟨s, e, x', Program.run_bind hrun, hdescends⟩

end Deliberation.Engine.TreeSearch
