import Deliberation.Proofs.Engine.Depth

namespace Deliberation.Search.Tree

def layer (t : Tree) (d : Nat) : List Node :=
  t.nodes.filter fun n => n.depth == d

def calm (t : Tree) (floor : Float) (d : Nat) : Bool :=
  t.nodes.all fun n => d < n.depth || !n.score.any fun s => floor < s.value

theorem mem_layer {t : Tree} {d : Nat} {n : Node} : n ∈ t.layer d ↔ n ∈ t.nodes ∧ n.depth = d := by
  rw [layer, List.mem_filter, beq_iff_eq]

section Extension

variable {t u : Tree} {new : List Node} {d : Nat}

theorem layer_of_deeper (h : u.nodes = t.nodes ++ new) (hn : ∀ n ∈ new, d < n.depth) :
    u.layer d = t.layer d := by
  have hz : new.filter (fun n => n.depth == d) = [] := by
    refine List.filter_eq_nil_iff.2 fun n hm he => ?_
    exact Nat.ne_of_gt (hn n hm) (eq_of_beq he)
  rw [layer, h, List.filter_append, hz, List.append_nil, layer]

theorem calm_of_deeper (h : u.nodes = t.nodes ++ new) (hn : ∀ n ∈ new, d < n.depth)
    (floor : Float) : u.calm floor d = t.calm floor d := by
  have ht : (new.all fun n => d < n.depth || !n.score.any fun s => floor < s.value) = true := by
    refine List.all_eq_true.2 fun n hm => ?_
    rw [decide_eq_true (hn n hm), Bool.true_or]
  rw [calm, h, List.all_append, ht, Bool.and_true, calm]

end Extension

end Deliberation.Search.Tree

namespace Deliberation.Engine.TreeSearch

open Run Search Number

variable {e : Surroundings} {l : List Query} {team : Team} {t : Task} {b : Bounds}

/-- The nodes that are expanded: the root, and below it those that the beam keeps at their depth,
while the depth is not the last and nothing down to it is good enough. -/
def selected (b : Bounds) (depths : Nat) (tree : Tree) (n : Node) : Bool :=
  n.depth == 0 || (n.depth < depths && n.score.isSome &&
    (outrankers (tree.layer n.depth) n).length < b.beam && tree.calm b.floor n.depth)

def inBeam (b : Bounds) (layer : List Node) (n : Node) : Bool :=
  n.depth == 0 || (n.score.isSome && (outrankers layer n).length < b.beam)

def expansionCall (t : Task) (b : Bounds) (tree : Tree) (id : Nat) : Query :=
  .complete (expansionRequest t (tree.path id) b.branch)

structure Level (b : Bounds) (d : Nat) (s : State) : Prop where
  grown : s.tree.Grown
  deep : ∀ n ∈ s.tree.nodes, n.depth ≤ d
  fertile : ∀ id, (s.tree.children id).length ≤ b.branch
  frontier : s.frontier.Perm (((s.tree.layer d).filter (inBeam b (s.tree.layer d))).map Node.id)
  narrow : s.frontier.length ≤ if d = 0 then 1 else b.beam
  calm : s.tree.calm b.floor d = true

theorem level_start (b : Bounds) (t : Task) : Level b 0 (.start t) where
  grown := Tree.grown_ofRoot _
  deep := by
    intro n hn
    exact Nat.le_of_eq (congrArg Node.depth (List.mem_singleton.1 hn))
  fertile := fun id => Nat.zero_le _
  frontier := .refl _
  narrow := Nat.le_refl _
  calm := rfl

def selectedCalls (t : Task) (b : Bounds) (d depths : Nat) (tree : Tree) : List Query :=
  (tree.nodes.filter fun n => d ≤ n.depth && selected b depths tree n).map fun n =>
    expansionCall t b tree n.id

structure Deepened (b : Bounds) (d : Nat) (s s₁ : State) (new : List Node) : Prop where
  grown : s₁.tree.Grown
  fertile : ∀ id, (s₁.tree.children id).length ≤ b.branch
  nodes : s₁.tree.nodes = s.tree.nodes ++ new
  depth : ∀ n ∈ new, n.depth = d + 1
  created : s₁.createdNodes = new
  few : new.length ≤ s.frontier.length * b.branch

namespace Level

variable {d : Nat} {s s₁ : State}

theorem mem_frontier (h : Level b d s) {id : Nat} (hid : id ∈ s.frontier) :
    ∃ n ∈ s.tree.nodes, n.id = id ∧ n.depth = d := by
  obtain ⟨n, hn, rfl⟩ := List.mem_map.1 (h.frontier.mem_iff.1 hid)
  obtain ⟨hm, hd⟩ := Tree.mem_layer.1 (List.mem_filter.1 hn).1
  exact ⟨n, hm, rfl, hd⟩

theorem nodup_frontier (h : Level b d s) : s.frontier.Nodup := by
  refine h.frontier.nodup_iff.2 (h.grown.nodup_ids.sublist (List.Sublist.map _ ?_))
  exact List.filter_sublist.trans List.filter_sublist

theorem frontier_selected (h : Level b d s) {tree : Tree} {new : List Node}
    (ht : tree.nodes = s.tree.nodes ++ new) (hn : ∀ n ∈ new, d < n.depth) {depths : Nat}
    (hd : d < depths) : s.frontier.Perm
      ((tree.nodes.filter fun n => n.depth == d && selected b depths tree n).map Node.id) := by
  have hf : (tree.nodes.filter fun n => n.depth == d && selected b depths tree n) =
      (tree.layer d).filter (selected b depths tree) := by
    rw [Tree.layer, List.filter_filter]
    exact List.filter_congr fun n _ => Bool.and_comm _ _
  have hl := Tree.layer_of_deeper ht hn
  have hc := (Tree.calm_of_deeper ht hn b.floor).trans h.calm
  rw [hf, hl]
  refine h.frontier.trans (.of_eq (congrArg _ (List.filter_congr fun n hm => ?_)))
  obtain ⟨-, hnd⟩ := Tree.mem_layer.1 hm
  rw [inBeam, selected, hnd, hl, hc, decide_eq_true hd, Bool.true_and, Bool.and_true]

variable {xs : List (Nat × Expansion)}

theorem grows (h : Level b d s) (hr : Returned s.frontier xs) :
    (s.enterAll xs).tree = s.tree.grow d (xs.flatMap offspring) ∧
      (s.enterAll xs).createdNodes = brood d s.tree.size (xs.flatMap offspring) :=
  enterAll_grows fun x hx => by
    obtain ⟨p, hm, hi, hd⟩ := h.mem_frontier (hr.mem hx)
    exact ⟨p, hi ▸ h.grown.get?_id hm, hd⟩

theorem contents_children (h : Level b d s) (hr : Returned s.frontier xs) {x : Nat × Expansion}
    (hx : x ∈ xs) : ((s.enterAll xs).tree.children x.1).map Node.content = contents x.2 := by
  obtain ⟨p, hm, hi, hd⟩ := h.mem_frontier (hr.mem hx)
  rw [(h.grows hr).1, Tree.contents_children_grow, ← hi, h.grown.children_eq_nil h.deep hm hd, hi,
    children_offspring (hr.nodup h.nodup_frontier) hx, contents_offspring]
  rfl

theorem deepened (h : Level b d s) (hr : Returned s.frontier xs)
    (hy : ∀ x ∈ xs, Yields b.branch x.2) : ∃ new, Deepened b d s (s.enterAll xs) new := by
  obtain ⟨htree, hcreated⟩ := h.grows hr
  have hparent : ∀ c ∈ xs.flatMap offspring, ∃ p ∈ s.tree.nodes, p.id = c.1 ∧ p.depth = d := by
    intro c hc
    obtain ⟨x, hx, hc⟩ := List.mem_flatMap.1 hc
    rw [(mem_offspring hc).1]
    exact h.mem_frontier (hr.mem hx)
  refine ⟨_, ?_, fun id => ?_, congrArg Tree.nodes htree, fun n hn => (mem_brood hn).1,
    hcreated, ?_⟩
  · rw [htree]
    refine h.grown.grow hparent fun c hc x hx => ?_
    obtain ⟨y, hm, hc⟩ := List.mem_flatMap.1 hc
    obtain ⟨-, cs, hcs, hmem⟩ := mem_offspring hc
    exact (hy y hm).scored cs hcs c.2 hmem x hx
  · by_cases hid : id ∈ xs.map Prod.fst
    · obtain ⟨x, hx, rfl⟩ := List.mem_map.1 hid
      rw [← List.length_map (f := Node.content), h.contents_children hr hx,
        ← contents_offspring, List.length_map]
      exact length_offspring_le (hy x hx)
    · rw [htree, Tree.children_grow_of_not_mem _ _ (children_offspring_eq_nil hid)]
      exact h.fertile id
  · rw [length_brood]
    exact Nat.le_trans (length_flatMap_offspring_le hy) (Nat.mul_le_mul_right _ hr.length_le)

theorem childless (h : Level b d s) (hr : Returned s.frontier xs) {p : Node}
    (hp : p ∈ s.tree.nodes) (hd : p.depth = d) (hid : p.id ∉ xs.map Prod.fst) :
    (s.enterAll xs).tree.children p.id = [] := by
  rw [(h.grows hr).1, Tree.children_grow_of_not_mem _ _ (children_offspring_eq_nil hid)]
  exact h.grown.children_eq_nil h.deep hp hd

end Level

namespace Deepened

variable {d : Nat} {s s₁ : State} {new : List Node}

theorem deeper (h : Deepened b d s s₁ new) : ∀ n ∈ new, d < n.depth := by
  intro n hn
  rw [h.depth n hn]
  exact Nat.lt_succ_self d

theorem layer_eq (h : Deepened b d s s₁ new) (hs : Level b d s) : s₁.tree.layer (d + 1) = new := by
  have ho : s.tree.nodes.filter (fun n => n.depth == d + 1) = [] := by
    refine List.filter_eq_nil_iff.2 fun n hn he => ?_
    have hle := hs.deep n hn
    rw [eq_of_beq he] at hle
    omega
  have hn : new.filter (fun n => n.depth == d + 1) = new :=
    List.filter_eq_self.2 fun n hn => beq_iff_eq.2 (h.depth n hn)
  rw [Tree.layer, h.nodes, List.filter_append, ho, hn, List.nil_append]

theorem deep (h : Deepened b d s s₁ new) (hs : Level b d s) :
    ∀ n ∈ s₁.tree.nodes, n.depth ≤ d + 1 := by
  intro n hn
  rw [h.nodes] at hn
  rcases List.mem_append.1 hn with hn | hn
  · exact Nat.le_succ_of_le (hs.deep n hn)
  · exact Nat.le_of_eq (h.depth n hn)

theorem calm_eq (h : Deepened b d s s₁ new) (hs : Level b d s) :
    s₁.tree.calm b.floor (d + 1) = !s₁.exceeds b.floor := by
  have ho : (s.tree.nodes.all fun n =>
      d + 1 < n.depth || !n.score.any fun x => b.floor < x.value) = true := by
    refine List.all_eq_true.2 fun n hn => ?_
    have hc := List.all_eq_true.1 hs.calm n hn
    rw [decide_eq_false (Nat.not_lt.2 (hs.deep n hn)), Bool.false_or] at hc
    rw [hc, Bool.or_true]
  have hn : (new.all fun n => d + 1 < n.depth || !n.score.any fun x => b.floor < x.value) =
      new.all fun n => !n.score.any fun x => b.floor < x.value := by
    rw [Bool.eq_iff_iff, List.all_eq_true, List.all_eq_true]
    refine forall₂_congr fun n hn => ?_
    rw [h.depth n hn, decide_eq_false (Nat.lt_irrefl _), Bool.false_or]
  rw [Tree.calm, h.nodes, List.all_append, ho, hn, Bool.true_and, State.exceeds, h.created,
    List.not_any_eq_all_not]

theorem level (h : Deepened b d s s₁ new) (hs : Level b d s) (hx : s₁.exceeds b.floor = false) :
    Level b (d + 1) (s₁.retain b.beam) where
  grown := h.grown
  deep := h.deep hs
  fertile := h.fertile
  frontier := by
    have hids : (new.map Node.id).Nodup := by
      have hall := h.grown.nodup_ids
      rw [h.nodes, List.map_append] at hall
      exact (List.nodup_append.1 hall).2.1
    have hf : new.filter (inBeam b new) =
        new.filter fun n => n.score.isSome && (outrankers new n).length < b.beam := by
      refine List.filter_congr fun n hn => ?_
      rw [inBeam, h.depth n hn]
      rfl
    rw [State.retain]
    dsimp only
    rw [h.created, h.layer_eq hs, hf]
    exact (take_ranking_perm hids b.beam).map _
  narrow := by
    rw [if_neg (Nat.succ_ne_zero d), State.retain, List.length_map]
    exact List.length_take_le _ _
  calm := by
    rw [State.retain, h.calm_eq hs, hx]
    rfl

theorem old_or_new (h : Deepened b d s s₁ new) (hs : Level b d s) {n : Node}
    (hn : n ∈ s₁.tree.nodes) (hle : d ≤ n.depth) :
    n ∈ s.tree.nodes ∧ n.depth = d ∨ n.depth = d + 1 := by
  rw [h.nodes] at hn
  rcases List.mem_append.1 hn with hn | hn
  · exact .inl ⟨hn, Nat.le_antisymm (hs.deep n hn) hle⟩
  · exact .inr (h.depth n hn)

theorem not_selected (h : Deepened b d s s₁ new) {depths : Nat} (hs : Level b d s)
    (hx : s₁.exceeds b.floor = true) {n : Node} (hnd : n.depth = d + 1) :
    selected b depths s₁.tree n = false := by
  rw [selected, hnd, h.calm_eq hs, hx, Bool.not_true, Bool.and_false, Bool.or_false]
  rfl

theorem selectedCalls_eq_nil (h : Deepened b d s s₁ new) (t : Task) (depths : Nat)
    (hs : Level b d s) (hx : s₁.exceeds b.floor = true) :
    selectedCalls t b (d + 1) depths s₁.tree = [] := by
  refine List.map_eq_nil_iff.2 (List.filter_eq_nil_iff.2 fun n hn hp => ?_)
  obtain ⟨hle, hsel⟩ := Bool.and_eq_true_iff.1 hp
  have hnd := Nat.le_antisymm (h.deep hs n hn) (of_decide_eq_true hle)
  rw [h.not_selected hs hx hnd] at hsel
  cases hsel

end Deepened

end Deliberation.Engine.TreeSearch
