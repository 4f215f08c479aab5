import Deliberation.Proofs.Engine.Level
import Deliberation.Proofs.Run.Calm
import Deliberation.Proofs.Run.Instant

namespace Deliberation.Engine.TreeSearch

open Run Search

variable {e : Surroundings} {l : List Query} {team : Team} {t : Task} {b : Bounds}

inductive Bred (e : Surroundings) (t : Task) (b : Bounds) (tree : Tree) (n : Node) : Prop
  | proposed {a : Except Failure (Except Failure Completion)}
      (ha : e.answers (.complete (expansionRequest t (tree.path n.id) b.branch)) a)
      (hc : (tree.children n.id).map Node.content = proposals b.branch a)
  | lost {q : Query} {text : String} (hq : q = expansionCall t b tree n.id ∨ Judges t q)
      (ht : e.panics q text) (hc : tree.children n.id = [])

structure Reaches (e : Surroundings) (t : Task) (b : Bounds) (d depths : Nat) (s : State) (l : List Query)
    (tree : Tree) (new : List Node) : Prop where
  grown : tree.Grown
  fertile : ∀ id, (tree.children id).length ≤ b.branch
  nodes : tree.nodes = s.tree.nodes ++ new
  deeper : ∀ n ∈ new, d < n.depth
  few : new.length ≤ s.frontier.length * b.branch + (depths - 1) * (b.beam * b.branch)
  still : depths = 0 → new = []
  bred : ∀ n ∈ tree.nodes, d ≤ n.depth → selected b (d + depths) tree n = true → Bred e t b tree n
  barren : ∀ n ∈ tree.nodes, d ≤ n.depth → selected b (d + depths) tree n = false →
    tree.children n.id = []
  calls : ∃ others, l.Perm (selectedCalls t b d (d + depths) tree ++ others) ∧
    ∀ q ∈ others, Judges t q

theorem Reaches.length_le {d depths : Nat} {s : State} {tree : Tree} {new : List Node}
    (h : Reaches e t b d depths s l tree new) (hs : s.frontier.length ≤ b.beam) :
    new.length ≤ depths * (b.beam * b.branch) := by
  cases depths with
  | zero =>
    rw [h.still rfl]
    exact Nat.zero_le _
  | succ depths =>
    calc new.length
      _ ≤ s.frontier.length * b.branch + depths * (b.beam * b.branch) := h.few
      _ ≤ b.beam * b.branch + depths * (b.beam * b.branch) :=
        Nat.add_le_add_right (Nat.mul_le_mul_right _ hs) _
      _ = (depths + 1) * (b.beam * b.branch) := by rw [Nat.succ_mul, Nat.add_comm]

theorem filter_selected {d depths : Nat} {s : State} {tree : Tree} {new : List Node}
    (hs : Level b d s) (ht : tree.nodes = s.tree.nodes ++ new) (hn : ∀ n ∈ new, d < n.depth) :
    (tree.nodes.filter fun n => d ≤ n.depth && selected b depths tree n) =
      (tree.nodes.filter fun n => n.depth == d && selected b depths tree n) ++
        tree.nodes.filter fun n => d + 1 ≤ n.depth && selected b depths tree n := by
  have hold : (s.tree.nodes.filter fun n => d ≤ n.depth && selected b depths tree n) =
      s.tree.nodes.filter fun n => n.depth == d && selected b depths tree n := by
    refine List.filter_congr fun n hm => ?_
    have hle := hs.deep n hm
    have he : decide (d ≤ n.depth) = (n.depth == d) := by
      rw [Bool.eq_iff_iff, decide_eq_true_iff, beq_iff_eq]
      omega
    rw [he]
  have hold' : (s.tree.nodes.filter fun n => d + 1 ≤ n.depth && selected b depths tree n) = [] := by
    refine List.filter_eq_nil_iff.2 fun n hm => ?_
    have hle := hs.deep n hm
    simp only [Bool.and_eq_true, decide_eq_true_eq]
    omega
  have hnew : (new.filter fun n => n.depth == d && selected b depths tree n) = [] := by
    refine List.filter_eq_nil_iff.2 fun n hm => ?_
    have hlt := hn n hm
    simp only [Bool.and_eq_true, beq_iff_eq]
    omega
  have hnew' : (new.filter fun n => d ≤ n.depth && selected b depths tree n) =
      new.filter fun n => d + 1 ≤ n.depth && selected b depths tree n := by
    refine List.filter_congr fun n hm => ?_
    rw [decide_eq_true (Nat.le_of_lt (hn n hm)), decide_eq_true (Nat.succ_le_of_lt (hn n hm))]
  rw [ht, List.filter_append, List.filter_append, List.filter_append, hold, hold', hnew, hnew',
    List.append_nil, List.nil_append]

theorem frontier_calls {d depths : Nat} {s : State} {tree : Tree} {new : List Node}
    (hs : Level b d s) (ht : tree.nodes = s.tree.nodes ++ new) (hn : ∀ n ∈ new, d < n.depth)
    (hd : d < depths) : (s.frontier.map (expansionCall t b s.tree)).Perm
      ((tree.nodes.filter fun n => n.depth == d && selected b depths tree n).map fun n =>
        expansionCall t b tree n.id) := by
  refine ((hs.frontier_selected ht hn hd).map _).trans (.of_eq ?_)
  rw [List.map_map]
  refine List.map_congr_left fun n hm => ?_
  obtain ⟨hm, hsel⟩ := List.mem_filter.1 hm
  have hnd : n.depth = d := eq_of_beq (Bool.and_eq_true_iff.1 hsel).1
  have hmem : n ∈ s.tree.nodes := by
    rw [ht] at hm
    refine (List.mem_append.1 hm).resolve_right fun hm => ?_
    exact Nat.ne_of_gt (hn n hm) hnd
  rw [Function.comp_apply, expansionCall, expansionCall, Tree.path_append ht (hs.grown.id_lt hmem)]

theorem calls_append {d depths : Nat} {s : State} {tree : Tree} {new : List Node}
    {m n others others' : List Query} (hs : Level b d s)
    (ht : tree.nodes = s.tree.nodes ++ new) (hn : ∀ n ∈ new, d < n.depth) (hd : d < depths)
    (hm : m.Perm (s.frontier.map (expansionCall t b s.tree) ++ others))
    (hl : n.Perm (selectedCalls t b (d + 1) depths tree ++ others')) :
    (m ++ n).Perm (selectedCalls t b d depths tree ++ (others ++ others')) := by
  have hfront := hm.trans ((frontier_calls hs ht hn hd).append_right others)
  rw [selectedCalls, filter_selected hs ht hn, List.map_append, List.append_assoc]
  refine (hfront.append hl).trans ?_
  rw [List.append_assoc]
  refine .append_left _ ?_
  rw [selectedCalls, ← List.append_assoc, ← List.append_assoc]
  exact List.perm_append_comm.append_right _

theorem workers_calls (he : Steadfast e) {s : State} {rs : List (Option (Nat × Expansion))}
    {joined : List (Nat × Expansion)} (h : Joined e team t b s l rs joined) :
    ∃ others, l.Perm (s.frontier.map (expansionCall t b s.tree) ++ others) ∧
      ∀ q ∈ others, Judges t q :=
  h.together.of_map.perm_heads fun _ _ _ _ hx => (expandNode_ends he hx).1

theorem workers_yield (he : Steadfast e) {s : State} {rs : List (Option (Nat × Expansion))}
    {joined : List (Nat × Expansion)} (h : Joined e team t b s l rs joined) :
    ∀ x ∈ joined, Yields b.branch x.2 := by
  intro x hx
  obtain ⟨_, _, _, hvalue⟩ := h.together.of_map.exists_of_mem (h.mem hx)
  exact (expandNode_ends he hvalue).2 x rfl

theorem Bred.append {u tree : Tree} {n : Node} (h : Bred e t b u n) (hn : n ∈ u.nodes)
    (hu : u.Grown) (htree : tree.Grown) {new : List Node} (ht : tree.nodes = u.nodes ++ new)
    (hnew : ∀ m ∈ new, n.depth + 1 < m.depth) : Bred e t b tree n := by
  have hpath : tree.path n.id = u.path n.id := Tree.path_append ht (hu.id_lt hn)
  have hchildren : tree.children n.id = u.children n.id :=
    Tree.children_append htree ht (ht ▸ List.mem_append_left _ hn) hnew
  cases h with
  | proposed ha hc => exact .proposed (hpath ▸ ha) (hchildren ▸ hc)
  | lost hq ht hc =>
    refine .lost ?_ ht (hchildren ▸ hc)
    rwa [expansionCall, hpath]

structure Spreads (e : Surroundings) (t : Task) (b : Bounds) (d : Nat) (s s₁ : State) : Prop where
  bred : ∀ n ∈ s.tree.nodes, n.id ∈ s.frontier → Bred e t b s₁.tree n
  barren : ∀ n ∈ s.tree.nodes, n.depth = d → n.id ∉ s.frontier → s₁.tree.children n.id = []

theorem Level.spreads {d : Nat} {s : State} (hs : Level b d s) (he : Steadfast e)
    {rs : List (Option (Nat × Expansion))} {joined : List (Nat × Expansion)}
    (h : Joined e team t b s l rs joined) : Spreads e t b d s (s.enterAll (inOrder joined)) := by
  have hr : Returned s.frontier (inOrder joined) := h.returned.perm (inOrder_perm joined)
  refine ⟨fun n hn hid => ?_, fun n hn hd hid => ?_⟩
  · obtain ⟨p, hp, hpn, hpd⟩ := hs.mem_frontier hid
    obtain rfl : p = n := hs.grown.eq_of_id_eq hp hn hpn
    have hpath : (s.enterAll (inOrder joined)).tree.path p.id = s.tree.path p.id :=
      Tree.path_append (congrArg Tree.nodes (hs.grows hr).1) (hs.grown.id_lt hn)
    have hworker : (p.id, expandNode team t b.branch s.tree p.id) ∈
        s.frontier.zip (workers team t b s) := by
      obtain ⟨i, hi⟩ := List.mem_iff_getElem?.1 hid
      refine List.mem_of_getElem? (i := i) (List.getElem?_zip_eq_some.2 ⟨hi, ?_⟩)
      rw [workers, List.getElem?_map, hi]
      rfl
    obtain ⟨x, _, hx, hm⟩ | ⟨⟨text, _, hpanic⟩, hm⟩ := h.together.returned_or_lost
      hs.nodup_frontier (workers_numbered team t b s) h.perm hworker
    · obtain ⟨a, ha, hc⟩ := expandNode_proposes he hx
      refine .proposed (hpath ▸ ha) ?_
      exact (hs.contents_children hr (mem_inOrder.2 hm)).trans hc
    · obtain ⟨q, hq, hown⟩ := expandNode_panics he hpanic
      refine .lost ?_ hq (hs.childless hr hn hpd fun hid => hm ?_)
      · rwa [expansionCall, hpath]
      · exact ((inOrder_perm joined).map Prod.fst).mem_iff.1 hid
  · exact hs.childless hr hn hd fun hm => hid (hr.subset hm)

theorem Level.mem_frontier_iff {d depths : Nat} {s : State} {tree : Tree} {new : List Node}
    (hs : Level b d s) (htree : tree.Grown) (ht : tree.nodes = s.tree.nodes ++ new)
    (hnew : ∀ n ∈ new, d < n.depth) (hd : d < depths) {n : Node} (hn : n ∈ tree.nodes)
    (hnd : n.depth = d) : n.id ∈ s.frontier ↔ selected b depths tree n = true := by
  rw [(hs.frontier_selected ht hnew hd).mem_iff]
  constructor
  · intro h
    obtain ⟨m, hm, hid⟩ := List.mem_map.1 h
    obtain ⟨hm, hsel⟩ := List.mem_filter.1 hm
    obtain rfl := htree.eq_of_id_eq hm hn hid
    exact (Bool.and_eq_true_iff.1 hsel).2
  · intro h
    refine List.mem_map.2 ⟨n, List.mem_filter.2 ⟨hn, ?_⟩, rfl⟩
    exact Bool.and_eq_true_iff.2 ⟨beq_iff_eq.2 hnd, h⟩

theorem reaches_self {d depths : Nat} {s : State} (hs : Level b d s)
    (h : ∀ n ∈ s.tree.nodes, n.depth = d → selected b (d + depths) s.tree n = false) :
    Reaches e t b d depths s [] s.tree [] where
  grown := hs.grown
  fertile := hs.fertile
  nodes := (List.append_nil _).symm
  deeper := fun _ hn => nomatch hn
  few := Nat.zero_le _
  still := fun _ => rfl
  bred := by
    intro n hn hle hsel
    rw [h n hn (Nat.le_antisymm (hs.deep n hn) hle)] at hsel
    cases hsel
  barren := by
    intro n hn hle _
    exact hs.grown.children_eq_nil hs.deep hn (Nat.le_antisymm (hs.deep n hn) hle)
  calls := by
    have hz : (s.tree.nodes.filter fun n => d ≤ n.depth && selected b (d + depths) s.tree n) =
        [] := by
      refine List.filter_eq_nil_iff.2 fun n hn hp => ?_
      obtain ⟨hle, hsel⟩ := Bool.and_eq_true_iff.1 hp
      have hd := Nat.le_antisymm (hs.deep n hn) (of_decide_eq_true hle)
      rw [h n hn hd] at hsel
      cases hsel
    rw [selectedCalls, hz]
    exact ⟨[], .refl _, fun _ hq => nomatch hq⟩

section Step

variable {d depths : Nat} {s s₁ : State} {new : List Node} {m : List Query}

theorem reaches_stop (hs : Level b d s) (hdeep : Deepened b d s s₁ new)
    (hspread : Spreads e t b d s s₁) (hx : s₁.exceeds b.floor = true)
    (hm : ∃ others, m.Perm (s.frontier.map (expansionCall t b s.tree) ++ others) ∧
      ∀ q ∈ others, Judges t q) : Reaches e t b d (depths + 1) s m s₁.tree new where
  grown := hdeep.grown
  fertile := hdeep.fertile
  nodes := hdeep.nodes
  deeper := hdeep.deeper
  few := Nat.le_trans hdeep.few (Nat.le_add_right _ _)
  still := fun h0 => absurd h0 (Nat.succ_ne_zero depths)
  bred := by
    intro n hn hle hsel
    have hlt : d < d + (depths + 1) := Nat.lt_add_of_pos_right (Nat.succ_pos depths)
    obtain ⟨hold, hnd⟩ | hnd := hdeep.old_or_new hs hn hle
    · have hid := (hs.mem_frontier_iff hdeep.grown hdeep.nodes hdeep.deeper hlt hn hnd).2 hsel
      exact hspread.bred n hold hid
    · rw [hdeep.not_selected hs hx hnd] at hsel
      cases hsel
  barren := by
    intro n hn hle hsel
    have hlt : d < d + (depths + 1) := Nat.lt_add_of_pos_right (Nat.succ_pos depths)
    obtain ⟨hold, hnd⟩ | hnd := hdeep.old_or_new hs hn hle
    · refine hspread.barren n hold hnd fun hid => ?_
      rw [(hs.mem_frontier_iff hdeep.grown hdeep.nodes hdeep.deeper hlt hn hnd).1 hid] at hsel
      cases hsel
    · exact hdeep.grown.children_eq_nil (hdeep.deep hs) hn hnd
  calls := by
    obtain ⟨others, hm, hothers⟩ := hm
    have hlt : d < d + (depths + 1) := Nat.lt_add_of_pos_right (Nat.succ_pos depths)
    have hl : ([] : List Query).Perm
        (selectedCalls t b (d + 1) (d + (depths + 1)) s₁.tree ++ []) := by
      rw [hdeep.selectedCalls_eq_nil t _ hs hx]
      exact .refl _
    have hp := calls_append hs hdeep.nodes hdeep.deeper hlt hm hl
    rw [List.append_nil, List.append_nil] at hp
    exact ⟨others, hp, hothers⟩

theorem reaches_next (hs : Level b d s) (hdeep : Deepened b d s s₁ new)
    (hspread : Spreads e t b d s s₁) {tree : Tree} {new' : List Node} {n : List Query}
    (hr : Reaches e t b (d + 1) depths (s₁.retain b.beam) n tree new')
    (hwidth : (s₁.retain b.beam).frontier.length ≤ b.beam)
    (hm : ∃ others, m.Perm (s.frontier.map (expansionCall t b s.tree) ++ others) ∧
      ∀ q ∈ others, Judges t q) :
    Reaches e t b d (depths + 1) s (m ++ n) tree (new ++ new') := by
  have hlt : d < d + (depths + 1) := Nat.lt_add_of_pos_right (Nat.succ_pos depths)
  have hbounds : d + 1 + depths = d + (depths + 1) := by rw [Nat.add_right_comm, Nat.add_assoc]
  have hnodes : tree.nodes = s.tree.nodes ++ (new ++ new') := by
    rw [hr.nodes, ← List.append_assoc, ← hdeep.nodes]
    rfl
  have hdeeper : ∀ x ∈ new ++ new', d < x.depth := fun x hx =>
    (List.mem_append.1 hx).elim (hdeep.deeper x) fun hx => Nat.lt_of_succ_lt (hr.deeper x hx)
  -- the nodes of this depth are old, and no node below the next depth is a child of theirs
  have hold {x : Node} (hx : x ∈ tree.nodes) (hd : x.depth = d) :
      x ∈ s.tree.nodes ∧ x ∈ s₁.tree.nodes ∧ ∀ y ∈ new', x.depth + 1 < y.depth := by
    have hx : x ∈ s.tree.nodes := by
      rw [hnodes] at hx
      exact (List.mem_append.1 hx).resolve_right fun hx => Nat.ne_of_gt (hdeeper x hx) hd
    exact ⟨hx, hdeep.nodes ▸ List.mem_append_left _ hx, fun y hy => hd ▸ hr.deeper y hy⟩
  refine ⟨hr.grown, hr.fertile, hnodes, hdeeper, ?_, ?_, fun x hx hle hsel => ?_,
    fun x hx hle hsel => ?_, ?_⟩
  · rw [List.length_append, Nat.add_sub_cancel]
    exact Nat.add_le_add hdeep.few (hr.length_le hwidth)
  · exact fun h0 => absurd h0 (Nat.succ_ne_zero depths)
  · rcases Nat.lt_or_eq_of_le hle with hle | hd
    · exact hr.bred x hx hle (hbounds ▸ hsel)
    · obtain ⟨hxs, hxs₁, hnew⟩ := hold hx hd.symm
      have hid := (hs.mem_frontier_iff hr.grown hnodes hdeeper hlt hx hd.symm).2 hsel
      exact (hspread.bred x hxs hid).append hxs₁ hdeep.grown hr.grown hr.nodes hnew
  · rcases Nat.lt_or_eq_of_le hle with hle | hd
    · exact hr.barren x hx hle (hbounds ▸ hsel)
    · obtain ⟨hxs, -, hnew⟩ := hold hx hd.symm
      rw [Tree.children_append hr.grown hr.nodes hx hnew]
      refine hspread.barren x hxs hd.symm fun hid => ?_
      rw [(hs.mem_frontier_iff hr.grown hnodes hdeeper hlt hx hd.symm).1 hid] at hsel
      cases hsel
  · obtain ⟨others, hm, hothers⟩ := hm
    obtain ⟨others', hl, hothers'⟩ := hr.calls
    rw [hbounds] at hl
    refine ⟨others ++ others', calls_append hs hnodes hdeeper hlt hm hl, fun q hq => ?_⟩
    exact (List.mem_append.1 hq).elim (hothers q) (hothers' q)

end Step

-- By induction on the depths left, from the level that the search stands at.
theorem explore_reaches (he : Steadfast e) {d depths : Nat} (hd : 0 < d + depths) {s : State}
    (hs : Level b d s) {o : Outcome (State × Option Failure)}
    (h : (explore team t b depths s).Ends e l o) :
    ∃ s' new, o = .value (s', none) ∧ Reaches e t b d depths s l s'.tree new := by
  induction depths generalizing l d s with
  | zero =>
    cases h
    refine ⟨s, [], rfl, reaches_self hs fun n hn hnd => ?_⟩
    have hz : (d == 0) = false := beq_eq_false_iff_ne.2 (Nat.ne_of_gt hd)
    rw [selected, hnd, hz, Nat.add_zero, decide_eq_false (Nat.lt_irrefl d)]
    rfl
  | succ depths ih =>
    rcases explore_ends h with ⟨hf, rfl, rfl⟩ | ⟨-, hc⟩ | ⟨rs, joined, m, n, rfl, hw, s₁, rfl, h⟩
    · have hlt : d < d + (depths + 1) := Nat.lt_add_of_pos_right (Nat.succ_pos depths)
      refine ⟨s, [], rfl, reaches_self hs fun n hn hnd => ?_⟩
      have hp := hs.frontier_selected (List.append_nil _).symm
        (fun _ hm => absurd hm List.not_mem_nil) hlt
      rw [hf, List.nil_perm, List.map_eq_nil_iff, List.filter_eq_nil_iff] at hp
      simpa [hnd] using hp n hn
    · exfalso
      rcases hc with hc | ⟨rs, joined, m, hw, x, hx, hxc⟩
      · exact he.uncancelled hc
      · exact (workers_yield he hw x hx).uncancelled (isCancelled_iff.1 hxc)
    · have hm := workers_calls he hw
      have hspread := hs.spreads he hw
      obtain ⟨new, hdeep⟩ := hs.deepened (hw.returned.perm (inOrder_perm joined)) fun x hx =>
        workers_yield he hw x (mem_inOrder.1 hx)
      rcases h with ⟨hx, rfl, rfl⟩ | ⟨hx, h⟩
      · rw [List.append_nil]
        exact ⟨_, new, rfl, reaches_stop hs hdeep hspread hx hm⟩
      · have hlevel := hdeep.level hs hx
        obtain ⟨s', new', rfl, hr⟩ := ih (Nat.add_pos_left (Nat.succ_pos d) depths) hlevel h
        have hwidth := hlevel.narrow
        rw [if_neg (Nat.succ_ne_zero d)] at hwidth
        exact ⟨s', new ++ new', rfl, reaches_next hs hdeep hspread hr hwidth hm⟩

theorem conclude_of_best {s : State} {n : Node} {x : Score} (hb : s.tree.best? = some n)
    (hx : n.score = some x) :
    conclude s none = .success .treeSearch n.content x.value s.trace := by
  simp [conclude, failure?, hb, hx]

theorem conclude_of_unscored {s : State} (hb : s.tree.best? = none) (e : Option Failure) :
    (conclude s e).succeeded = false := by
  rw [conclude, hb]
  split
  · rfl
  · rfl
  · next h => cases h
  · rfl

structure Explored (e : Surroundings) (t : Task) (b : Bounds) (depths : Nat) (l : List Query)
    (r : Result) (tree : Tree) : Prop where
  grown : tree.Grown
  root : tree.layer 0 = [⟨Tree.root, none, 0, t.description, none⟩]
  calls : ∃ others, l.Perm ((tree.nodes.filter (selected b depths tree)).map
    (fun n => expansionCall t b tree n.id) ++ others) ∧
      ∀ q ∈ others, ∀ path count, q ≠ .complete (expansionRequest t path count)
  bred : ∀ n ∈ tree.nodes, selected b depths tree n = true → Bred e t b tree n
  barren : ∀ n ∈ tree.nodes, selected b depths tree n = false → tree.children n.id = []
  fertile : ∀ id, (tree.children id).length ≤ b.branch
  size_le : tree.size ≤ 1 + b.branch + (depths - 1) * (b.beam * b.branch)
  answer :
    (∃ n ∈ tree.nodes, ∃ x, n.score = some x ∧ (∀ m ∈ tree.nodes, outranks m n = false) ∧
        r.succeeded = true ∧ r.finalAnswer = n.content ∧ r.confidence = x.value) ∨
      ((∀ n ∈ tree.nodes, n.score = none) ∧ r.succeeded = false)

theorem explored_of_reaches {depths : Nat} {s : State} {new : List Node}
    (h : Reaches e t b 0 depths (.start t) l s.tree new) :
    Explored e t b depths l (conclude s none) s.tree where
  grown := h.grown
  root := Tree.layer_of_deeper h.nodes h.deeper
  calls := by
    obtain ⟨others, hl, hothers⟩ := h.calls
    rw [selectedCalls, Nat.zero_add] at hl
    simp only [Nat.zero_le, decide_true, Bool.true_and] at hl
    refine ⟨others, hl, fun q hq path count he => ?_⟩
    exact expansionRequest_not_judges t t path count (he ▸ hothers q hq)
  bred := fun n hn hsel => h.bred n hn (Nat.zero_le _) (by rwa [Nat.zero_add])
  barren := fun n hn hsel => h.barren n hn (Nat.zero_le _) (by rwa [Nat.zero_add])
  fertile := h.fertile
  size_le := by
    have hsize : s.tree.size = 1 + new.length := by
      rw [Tree.size, h.nodes, List.length_append]
      rfl
    have hfew : new.length ≤ 1 * b.branch + (depths - 1) * (b.beam * b.branch) := h.few
    rw [hsize, Nat.add_assoc]
    rw [Nat.one_mul] at hfew
    exact Nat.add_le_add_left hfew 1
  answer := by
    cases hb : s.tree.best? with
    | none => exact .inr ⟨best?_eq_none hb, conclude_of_unscored hb none⟩
    | some n =>
      obtain ⟨hn, hs, hfirst⟩ := best?_eq_some h.grown.nodup_ids hb
      obtain ⟨x, hx⟩ := Option.isSome_iff_exists.1 hs
      rw [conclude_of_best hb hx]
      exact .inl ⟨n, hn, x, hx, hfirst, rfl, rfl,
        Number.normalize_of_inUnit (h.grown.scored n hn x hx)⟩

variable {σ : Type}

theorem search_explores (w : World σ) (team : Team) (t : Task) (o : Options) (s : Session σ)
    (hw : ∀ r s, (w.respond (.complete r) s).1.outcome ≠ .value (.error .cancelled))
    (hc : ((search team t o).run w o.callTimeoutMs s).2.cancelled = false) :
    ∃ l r tree, ((search team t o).run w o.callTimeoutMs s).1 = .value (r, tree) ∧
      ((search team t o).run w o.callTimeoutMs s).2.queries = s.queries ++ l ∧
        Explored (.ofLog o.callTimeoutMs (w.exchanges s.world l) False) t
          ⟨max o.branchFactor 1, max o.beamWidth 1, o.confidenceFloor⟩
          (max o.maxDepth 1) l r tree := by
  obtain ⟨l, hl, he⟩ := (search team t o).run_ends_logged s fun h =>
    Bool.false_ne_true (hc.symm.trans h)
  have hsteady := steadfast_ofLog hw o.callTimeoutMs s.world l
  refine ⟨l, ?_⟩
  generalize Surroundings.ofLog o.callTimeoutMs (w.exchanges s.world l) False = e at he hsteady ⊢
  have hd : 0 < 0 + max o.maxDepth 1 := by omega
  rcases Program.ends_bind he with ⟨⟨s', f⟩, m, n, rfl, hx, hn⟩ | ⟨text, -, hp⟩
  · obtain ⟨s₁, new, ho, hr⟩ := explore_reaches hsteady hd (level_start _ t) hx
    cases ho
    obtain ⟨rfl, hv⟩ := Program.ends_done_iff.1 hn
    rw [List.append_nil] at hl ⊢
    exact ⟨_, _, hv, hl, explored_of_reaches hr⟩
  · obtain ⟨s₁, new, ho, -⟩ := explore_reaches hsteady hd (level_start _ t) hp
    cases ho

def palette : World Unit where
  respond
    | .complete r => fun x =>
      let told := (r.messages.getLast?.map Message.content).getD ""
      let text :=
        if Text.occursIn "none yet".toList told.toList then "1. Red\n2. Blue"
        else "1. Navy\n2. Teal"
      (⟨none, told.length, .value (.ok (.ofText text))⟩, x)
    | .execute _ _ => pure ⟨true, "", none⟩
    | .score c _ => pure (if c = "Teal" then 0.875 else if c = "Blue" then 0.75 else 0.25)
    | .check _ _ => pure default
    | .attempt _ _ => pure (.ok "")

theorem calm_palette : palette.Calm := by
  rintro (_ | _ | _ | _ | _) _ <;> rfl

def judged : Team :=
  ⟨.external, .backend, .backend, .value [], fun _ _ => .treeSearch⟩

theorem palette_explored :
    let o := { Options.default with maxDepth := 2, branchFactor := 2 }
    let t := Task.ofDescription "Name a colour"
    let ended := (search judged t o).run palette o.callTimeoutMs (.start () none)
    (∀ r s, (palette.respond (.complete r) s).1.outcome ≠ .value (.error .cancelled)) ∧
      ended.2.cancelled = false ∧ ∃ l r tree, ended.1 = .value (r, tree) ∧ ended.2.queries = l ∧
        Explored (.ofLog o.callTimeoutMs (palette.exchanges () l) False) t ⟨2, 2, 0.9⟩ 2 l r tree ∧
          r.finalAnswer = "Teal" ∧ r.confidence = 0.875 ∧
            tree.nodes.map (fun n => (n.parent, n.content)) =
              [(none, "Name a colour"), (some 0, "Red"), (some 0, "Blue"), (some 1, "Navy"),
                (some 1, "Teal"), (some 2, "Navy"), (some 2, "Teal")] := by
  intro o t ended
  have hw : ∀ r s, (palette.respond (.complete r) s).1.outcome ≠ .value (.error .cancelled) :=
    fun _ _ h => nomatch h
  have hc : ended.2.cancelled = false := Program.run_uncancelled calm_palette _ rfl
  obtain ⟨l, r, tree, hr, hl, hexplored⟩ := search_explores palette judged t o (.start () none) hw hc
  have hshown : ((search judged t o).runIn? palette o.callTimeoutMs 2 (.start () none)).bind
      (fun out => out.1.value?.map fun x =>
        (x.1.finalAnswer, x.1.confidence, x.2.nodes.map fun n => (n.parent, n.content))) =
        some ("Teal", 0.875, [(none, "Name a colour"), (some 0, "Red"), (some 0, "Blue"),
          (some 1, "Navy"), (some 1, "Teal"), (some 2, "Navy"), (some 2, "Teal")]) := by
    rw [search, show max o.maxDepth 1 = 2 from rfl]
    simp only [explore, State.retain, conclude, failure?, Tree.best?, inOrder_eq_insertionSort,
      ranking_eq_insertionSort]
    decide +kernel
  obtain ⟨x, hx, hshown⟩ := Program.value_of_runIn? hshown
  obtain rfl : (r, tree) = x := Outcome.value.inj (hr.symm.trans hx)
  simp only [Prod.mk.injEq] at hshown
  exact ⟨hw, hc, l, r, tree, hr, hl, hexplored, hshown⟩

end Deliberation.Engine.TreeSearch
