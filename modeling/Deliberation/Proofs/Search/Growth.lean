import Deliberation.Proofs.Number.Linear
import Deliberation.Search.Tree

namespace Deliberation.Search

open Number

theorem Score.clamped_ofFloat {x : Float} (h : InUnit x) : (Score.ofFloat x).clamped.value = x := by
  have hv : (Score.ofFloat x).value = x := Float.ofBits_toBits x
  rw [clamped, hv, if_neg (not_lt_of_le h.zero_le), if_neg (not_lt_of_le h.le_one), hv]

structure Tree.Grown (t : Tree) : Prop where
  ids : t.nodes.map Node.id = List.range t.size
  rooted : ∃ content, t.get? Tree.root = some ⟨0, none, 0, content, none⟩
  parented : ∀ n ∈ t.nodes, n.id = 0 ∨ ∃ p ∈ t.nodes, n.parent = some p.id ∧ n.depth = p.depth + 1
  scored : ∀ n ∈ t.nodes, ∀ s, n.score = some s → InUnit s.value

namespace Tree

variable {t : Tree}

theorem grown_ofRoot (content : String) : (ofRoot content).Grown where
  ids := rfl
  rooted := ⟨content, rfl⟩
  parented := by
    intro n hn
    rw [List.mem_singleton.1 hn]
    exact .inl rfl
  scored := by
    intro n hn s hs
    rw [List.mem_singleton.1 hn] at hs
    cases hs

theorem get?_of_ids (h : t.nodes.map Node.id = List.range t.size) {n : Node} (hn : n ∈ t.nodes) :
    t.get? n.id = some n := by
  obtain ⟨i, hi⟩ := List.mem_iff_getElem?.1 hn
  have hm : (t.nodes.map Node.id)[i]? = some n.id := by
    rw [List.getElem?_map, hi]
    rfl
  rw [h] at hm
  obtain ⟨_, hm⟩ := List.getElem?_eq_some_iff.1 hm
  rw [List.getElem_range] at hm
  rw [← hm]
  exact hi

namespace Grown

theorem get?_id (h : t.Grown) {n : Node} (hn : n ∈ t.nodes) : t.get? n.id = some n :=
  get?_of_ids h.ids hn

theorem eq_of_id_eq (h : t.Grown) {m n : Node} (hm : m ∈ t.nodes) (hn : n ∈ t.nodes)
    (he : m.id = n.id) : m = n := by
  have hg := h.get?_id hm
  rw [he, h.get?_id hn] at hg
  exact (Option.some.inj hg).symm

theorem nodup_ids (h : t.Grown) : (t.nodes.map Node.id).Nodup := by
  rw [h.ids]
  exact List.nodup_range

theorem id_lt (h : t.Grown) {n : Node} (hn : n ∈ t.nodes) : n.id < t.size := by
  obtain ⟨hi, _⟩ := List.getElem?_eq_some_iff.1 (h.get?_id hn)
  exact hi

theorem depth_of_parent (h : t.Grown) {n p : Node} (hn : n ∈ t.nodes) (hp : p ∈ t.nodes)
    (he : (n.parent == some p.id) = true) : n.depth = p.depth + 1 := by
  have hparent : n.parent = some p.id := eq_of_beq he
  rcases h.parented n hn with hi | ⟨q, hq, hqp, hqd⟩
  · obtain ⟨content, hr⟩ := h.rooted
    have hg := h.get?_id hn
    rw [hi, show 0 = Tree.root from rfl, hr] at hg
    cases hg
    cases hparent
  · rw [hparent] at hqp
    rw [hqd, h.eq_of_id_eq hp hq (Option.some.inj hqp)]

theorem children_eq_nil (h : t.Grown) {d : Nat} (hd : ∀ n ∈ t.nodes, n.depth ≤ d) {p : Node}
    (hp : p ∈ t.nodes) (hpd : p.depth = d) : t.children p.id = [] := by
  refine List.filter_eq_nil_iff.2 fun n hn he => ?_
  have hle := hd n hn
  have hdepth := h.depth_of_parent hn hp he
  omega

end Grown

theorem children_append {t u : Tree} (hu : u.Grown) {new : List Node}
    (h : u.nodes = t.nodes ++ new) {p : Node} (hp : p ∈ u.nodes)
    (hnew : ∀ n ∈ new, p.depth + 1 < n.depth) : u.children p.id = t.children p.id := by
  have hnone : new.filter (fun n => n.parent == some p.id) = [] := by
    refine List.filter_eq_nil_iff.2 fun n hn he => ?_
    have hdepth := hu.depth_of_parent (h ▸ List.mem_append_right _ hn) hp he
    exact Nat.ne_of_gt (hnew n hn) hdepth
  rw [children, h, List.filter_append, hnone, List.append_nil, children]

theorem path_append {t u : Tree} {new : List Node} (h : u.nodes = t.nodes ++ new) {id : Nat}
    (hid : id < t.size) : u.path id = t.path id := by
  induction id using Nat.strongRecOn with
  | ind id ih =>
    have hg : u.get? id = t.get? id := by
      rw [get?, h, List.getElem?_append_left hid, get?]
    rw [path, path, hg]
    cases t.get? id with
    | none => rfl
    | some n =>
      dsimp only
      cases n.parent with
      | none => rfl
      | some p =>
        dsimp only
        by_cases hp : p < id
        · rw [if_pos hp, if_pos hp, ih p hp (Nat.lt_trans hp hid)]
        · rw [if_neg hp, if_neg hp]

end Tree

def sprout (d id : Nat) (c : Nat × String × Option Float) : Node :=
  ⟨id, some c.1, d + 1, c.2.1, (c.2.2.map Score.ofFloat).map Score.clamped⟩

def brood (d start : Nat) (cs : List (Nat × String × Option Float)) : List Node :=
  (cs.zipIdx start).map fun (c, id) => sprout d id c

variable {d start : Nat} {cs : List (Nat × String × Option Float)}

theorem brood_cons (d start : Nat) (c : Nat × String × Option Float)
    (cs : List (Nat × String × Option Float)) :
    brood d start (c :: cs) = sprout d start c :: brood d (start + 1) cs :=
  rfl

theorem brood_append (d start : Nat) (cs cs' : List (Nat × String × Option Float)) :
    brood d start (cs ++ cs') = brood d start cs ++ brood d (start + cs.length) cs' := by
  rw [brood, List.zipIdx_append, List.map_append]
  rfl

theorem length_brood (d start : Nat) (cs : List (Nat × String × Option Float)) :
    (brood d start cs).length = cs.length := by
  simp [brood]

theorem ids_brood (d start : Nat) (cs : List (Nat × String × Option Float)) :
    (brood d start cs).map Node.id = List.range' start cs.length := by
  rw [brood, List.map_map, ← List.zipIdx_map_snd start cs]
  rfl

theorem exists_sprout {n : Node} (h : n ∈ brood d start cs) :
    ∃ c ∈ cs, ∃ id, n = sprout d id c := by
  obtain ⟨⟨c, id⟩, hc, rfl⟩ := List.mem_map.1 h
  exact ⟨c, List.fst_mem_of_mem_zipIdx hc, id, rfl⟩

theorem mem_brood {n : Node} (h : n ∈ brood d start cs) : n.depth = d + 1 ∧
    ∃ c ∈ cs, n.parent = some c.1 ∧ n.score = (c.2.2.map Score.ofFloat).map Score.clamped := by
  obtain ⟨c, hc, id, rfl⟩ := exists_sprout h
  exact ⟨rfl, c, hc, rfl, rfl⟩

theorem contents_children_brood (d start : Nat) (cs : List (Nat × String × Option Float))
    (id : Nat) : ((brood d start cs).filter fun n => n.parent == some id).map Node.content =
      (cs.filter fun c => c.1 == id).map fun c => c.2.1 := by
  induction cs generalizing start with
  | nil => rfl
  | cons c cs ih =>
    rw [brood_cons, List.filter_cons, List.filter_cons]
    by_cases hc : c.1 = id
    · simp [sprout, hc, ih]
    · simp [sprout, hc, ih]

namespace Tree

variable {t : Tree}

def grow (t : Tree) (d : Nat) (cs : List (Nat × String × Option Float)) : Tree :=
  ⟨t.nodes ++ brood d t.size cs⟩

theorem size_grow (t : Tree) (d : Nat) (cs : List (Nat × String × Option Float)) :
    (t.grow d cs).size = t.size + cs.length := by
  rw [grow, size, size, List.length_append, length_brood]

theorem grow_append (t : Tree) (d : Nat) (cs cs' : List (Nat × String × Option Float)) :
    t.grow d (cs ++ cs') = (t.grow d cs).grow d cs' := by
  simp [grow, brood_append, size, length_brood]

theorem ids_grow (h : t.nodes.map Node.id = List.range t.size) (d : Nat)
    (cs : List (Nat × String × Option Float)) :
    (t.grow d cs).nodes.map Node.id = List.range (t.grow d cs).size := by
  rw [size_grow, Tree.grow, List.map_append, h, ids_brood, List.range_add,
    List.range'_eq_map_range]

theorem Grown.grow (h : t.Grown) (hp : ∀ c ∈ cs, ∃ p ∈ t.nodes, p.id = c.1 ∧ p.depth = d)
    (hs : ∀ c ∈ cs, ∀ x, c.2.2 = some x → InUnit x) : (t.grow d cs).Grown where
  ids := ids_grow h.ids d cs
  rooted := by
    obtain ⟨content, hr⟩ := h.rooted
    obtain ⟨hlt, -⟩ := List.getElem?_eq_some_iff.1 hr
    exact ⟨content, (List.getElem?_append_left hlt).trans hr⟩
  parented := by
    intro n hn
    rcases List.mem_append.1 hn with hn | hn
    · rcases h.parented n hn with hi | ⟨p, hm, hpar⟩
      · exact .inl hi
      · exact .inr ⟨p, List.mem_append_left _ hm, hpar⟩
    · obtain ⟨hd, c, hc, hpar, -⟩ := mem_brood hn
      obtain ⟨p, hm, hi, hpd⟩ := hp c hc
      exact .inr ⟨p, List.mem_append_left _ hm, by rw [hpar, hi], by rw [hd, hpd]⟩
  scored := by
    intro n hn s hns
    rcases List.mem_append.1 hn with hn | hn
    · exact h.scored n hn s hns
    · obtain ⟨-, c, hc, -, hscore⟩ := mem_brood hn
      rw [hns] at hscore
      obtain ⟨s', hs', rfl⟩ := Option.map_eq_some_iff.1 hscore.symm
      obtain ⟨x, hx, rfl⟩ := Option.map_eq_some_iff.1 hs'
      have hu := hs c hc x hx
      rw [Score.clamped_ofFloat hu]
      exact hu

theorem contents_children_grow (t : Tree) (d : Nat) (cs : List (Nat × String × Option Float))
    (id : Nat) : ((t.grow d cs).children id).map Node.content =
      (t.children id).map Node.content ++ (cs.filter fun c => c.1 == id).map fun c => c.2.1 := by
  rw [children, grow, List.filter_append, List.map_append, contents_children_brood]
  rfl

theorem children_grow_of_not_mem (t : Tree) (d : Nat) {cs : List (Nat × String × Option Float)}
    {id : Nat} (h : cs.filter (fun c => c.1 == id) = []) :
    (t.grow d cs).children id = t.children id := by
  have hnone : (brood d t.size cs).filter (fun n => n.parent == some id) = [] := by
    rw [← List.map_eq_nil_iff (f := Node.content), contents_children_brood, h, List.map_nil]
  rw [children, grow, List.filter_append, hnone, List.append_nil, children]

theorem addChild?_eq {parent : Nat} {p : Node} (h : t.get? parent = some p) (content : String)
    (score : Option Float) : t.addChild? parent content (score.map Score.ofFloat) =
      some (t.grow p.depth [(parent, content, score)], t.size) := by
  rw [addChild?, h]
  rfl

end Tree

end Deliberation.Search
