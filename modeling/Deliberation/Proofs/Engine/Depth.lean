import Deliberation.Proofs.Engine.Expansion
import Deliberation.Proofs.Search.Ranking

namespace Deliberation.Engine.TreeSearch

open Run Search Number

variable {e : Surroundings} {l : List Query} {team : Team} {t : Task} {b : Bounds}

theorem filterMap_range'_append {α : Type} (pre post : List α) :
    (List.range' pre.length post.length).filterMap (fun i => (pre ++ post)[i]?) = post := by
  induction post generalizing pre with
  | nil => rfl
  | cons a post ih =>
    have hi := ih (pre ++ [a])
    rw [List.length_append, List.append_assoc] at hi
    have hg : (pre ++ a :: post)[pre.length]? = some a := by
      rw [List.getElem?_append_right (Nat.le_refl _), Nat.sub_self, List.getElem?_cons_zero]
    rw [List.length_cons, List.range'_succ, List.filterMap_cons_some hg]
    exact congrArg (List.cons a) hi

def offspring : Nat × Expansion → List (Nat × String × Option Float)
  | (parent, .ok cs) => cs.map (parent, ·)
  | (_, .error _) => []

structure Enters (d : Nat) (cs : List (Nat × String × Option Float)) (s s' : State) : Prop where
  tree : s'.tree = s.tree.grow d cs
  created : s'.created = s.created ++ List.range' s.tree.size cs.length

theorem Enters.refl (d : Nat) (s : State) : Enters d [] s s where
  tree := by simp [Tree.grow, brood]
  created := by simp

theorem Enters.trans {d : Nat} {cs cs' : List (Nat × String × Option Float)} {s s' s'' : State}
    (h : Enters d cs s s') (h' : Enters d cs' s' s'') : Enters d (cs ++ cs') s s'' where
  tree := by rw [h'.tree, h.tree, Tree.grow_append]
  created := by
    rw [h'.created, h.created, h.tree, Tree.size_grow, List.length_append, List.append_assoc,
      List.range'_append_1]

theorem Enters.get? {d : Nat} {cs : List (Nat × String × Option Float)} {s s' : State}
    (h : Enters d cs s s') {id : Nat} {p : Node} (hp : s.tree.get? id = some p) :
    s'.tree.get? id = some p := by
  obtain ⟨hi, -⟩ := List.getElem?_eq_some_iff.1 hp
  rw [h.tree]
  exact (List.getElem?_append_left hi).trans hp

theorem enters_addAll {s : State} {parent : Nat} {p : Node} (hp : s.tree.get? parent = some p)
    (cs : List (String × Option Float)) :
    Enters p.depth (cs.map (parent, ·)) s (s.addAll parent cs) := by
  induction cs generalizing s with
  | nil => exact .refl _ _
  | cons c cs ih =>
    obtain ⟨content, score⟩ := c
    rw [State.addAll, List.foldl_cons]
    dsimp only
    rw [Tree.addChild?_eq hp]
    have h : Enters p.depth [(parent, content, score)] s
        { s with
          tree := s.tree.grow p.depth [(parent, content, score)]
          created := s.created ++ [s.tree.size] } := ⟨rfl, rfl⟩
    exact h.trans (ih (h.get? hp))

theorem enters_enter {s : State} {parent : Nat} {p : Node} (hp : s.tree.get? parent = some p)
    (x : Expansion) : Enters p.depth (offspring (parent, x)) s (s.enter parent x) := by
  cases x with
  | ok cs =>
    have h := enters_addAll
      (s := { s with trace := s.trace.record .expand (State.expanded parent cs) }) hp cs
    exact ⟨h.tree, h.created⟩
  | error f =>
    have h := Enters.refl p.depth s
    exact ⟨h.tree, h.created⟩

theorem enters_foldl {d : Nat} {s : State} {xs : List (Nat × Expansion)}
    (hp : ∀ x ∈ xs, ∃ p, s.tree.get? x.1 = some p ∧ p.depth = d) :
    Enters d (xs.flatMap offspring) s (xs.foldl (fun s (parent, x) => s.enter parent x) s) := by
  induction xs generalizing s with
  | nil => exact .refl _ _
  | cons x xs ih =>
    obtain ⟨parent, x⟩ := x
    obtain ⟨p, hg, rfl⟩ := hp _ List.mem_cons_self
    have h := enters_enter hg x
    refine h.trans (ih fun y hy => ?_)
    obtain ⟨q, hq, hd⟩ := hp y (List.mem_cons_of_mem _ hy)
    exact ⟨q, h.get? hq, hd⟩

theorem enterAll_grows {d : Nat} {s : State} {xs : List (Nat × Expansion)}
    (hp : ∀ x ∈ xs, ∃ p, s.tree.get? x.1 = some p ∧ p.depth = d) :
    (s.enterAll xs).tree = s.tree.grow d (xs.flatMap offspring) ∧
      (s.enterAll xs).createdNodes = brood d s.tree.size (xs.flatMap offspring) := by
  have h := enters_foldl (s := { s with created := [] }) hp
  refine ⟨h.tree, ?_⟩
  have hc : (s.enterAll xs).created = List.range' s.tree.size (xs.flatMap offspring).length :=
    h.created.trans (List.nil_append _)
  rw [State.createdNodes, hc, show (s.enterAll xs).tree = _ from h.tree]
  have hf := filterMap_range'_append s.tree.nodes (brood d s.tree.size (xs.flatMap offspring))
  rw [length_brood] at hf
  exact hf

theorem mem_offspring {x : Nat × Expansion} {c : Nat × String × Option Float}
    (h : c ∈ offspring x) : c.1 = x.1 ∧ ∃ cs, x.2 = .ok cs ∧ c.2 ∈ cs := by
  obtain ⟨parent, x⟩ := x
  cases x with
  | error f => cases h
  | ok cs =>
    obtain ⟨y, hy, rfl⟩ := List.mem_map.1 h
    exact ⟨rfl, cs, rfl, hy⟩

theorem length_offspring_le {count : Nat} {x : Nat × Expansion} (h : Yields count x.2) :
    (offspring x).length ≤ count := by
  obtain ⟨parent, x⟩ := x
  cases x with
  | error f => exact Nat.zero_le _
  | ok cs =>
    rw [offspring, List.length_map]
    exact h.length_le cs rfl

theorem length_flatMap_offspring_le {count : Nat} {xs : List (Nat × Expansion)}
    (h : ∀ x ∈ xs, Yields count x.2) : (xs.flatMap offspring).length ≤ xs.length * count := by
  induction xs with
  | nil => exact Nat.zero_le _
  | cons x xs ih =>
    rw [List.flatMap_cons, List.length_append, List.length_cons, Nat.succ_mul, Nat.add_comm]
    exact Nat.add_le_add (ih fun y hy => h y (List.mem_cons_of_mem _ hy))
      (length_offspring_le (h x List.mem_cons_self))

theorem children_offspring_eq_nil {xs : List (Nat × Expansion)} {id : Nat}
    (h : id ∉ xs.map Prod.fst) : (xs.flatMap offspring).filter (fun c => c.1 == id) = [] := by
  refine List.filter_eq_nil_iff.2 fun c hc he => h ?_
  obtain ⟨x, hx, hc⟩ := List.mem_flatMap.1 hc
  rw [← eq_of_beq he, (mem_offspring hc).1]
  exact List.mem_map_of_mem hx

theorem children_offspring {xs : List (Nat × Expansion)} (hn : (xs.map Prod.fst).Nodup)
    {x : Nat × Expansion} (hx : x ∈ xs) :
    (xs.flatMap offspring).filter (fun c => c.1 == x.1) = offspring x := by
  induction xs with
  | nil => cases hx
  | cons y xs ih =>
    obtain ⟨hy, hn⟩ := List.nodup_cons.1 hn
    rw [List.flatMap_cons, List.filter_append]
    rcases List.mem_cons.1 hx with rfl | hx
    · rw [children_offspring_eq_nil hy, List.append_nil]
      exact List.filter_eq_self.2 fun c hc => beq_iff_eq.2 (mem_offspring hc).1
    · have hnone : (offspring y).filter (fun c => c.1 == x.1) = [] := by
        refine List.filter_eq_nil_iff.2 fun c hc he => hy ?_
        rw [← (mem_offspring hc).1, eq_of_beq he]
        exact List.mem_map_of_mem hx
      rw [hnone, List.nil_append, ih hn hx]

theorem contents_offspring (x : Nat × Expansion) :
    (offspring x).map (fun c => c.2.1) = contents x.2 := by
  obtain ⟨parent, x⟩ := x
  cases x with
  | error f => rfl
  | ok cs => simp [offspring, contents, Function.comp_def]

structure Standing (d : Nat) (s : State) : Prop where
  ids : s.tree.nodes.map Node.id = List.range s.tree.size
  nodup : s.frontier.Nodup
  present : ∀ id ∈ s.frontier, ∃ p, s.tree.get? id = some p ∧ p.depth = d

theorem standing_start (t : Task) : Standing 0 (.start t) where
  ids := rfl
  nodup := List.nodup_singleton _
  present := by
    intro id hid
    rw [List.mem_singleton.1 hid]
    exact ⟨_, rfl, rfl⟩

theorem Standing.grows {d : Nat} {s : State} (hs : Standing d s) {xs : List (Nat × Expansion)}
    (hr : Returned s.frontier xs) :
    (s.enterAll xs).tree = s.tree.grow d (xs.flatMap offspring) ∧
      (s.enterAll xs).createdNodes = brood d s.tree.size (xs.flatMap offspring) :=
  enterAll_grows fun _ hx => hs.present _ (hr.mem hx)

theorem Standing.next {d : Nat} {s : State} (hs : Standing d s) {xs : List (Nat × Expansion)}
    (hr : Returned s.frontier xs) (width : Nat) :
    Standing (d + 1) ((s.enterAll xs).retain width) := by
  obtain ⟨htree, hcreated⟩ := hs.grows hr
  have hids := Tree.ids_grow hs.ids d (xs.flatMap offspring)
  rw [← htree] at hids
  refine ⟨hids, ?_, fun id hid => ?_⟩
  · rw [State.retain, hcreated]
    refine List.Nodup.sublist ((List.take_sublist _ _).map _) ?_
    refine ((ranking_perm _).map Node.id).nodup_iff.2 (.sublist (List.filter_sublist.map _) ?_)
    rw [ids_brood]
    exact List.nodup_range'
  · rw [State.retain] at hid ⊢
    dsimp only at hid ⊢
    obtain ⟨n, hn, rfl⟩ := List.mem_map.1 hid
    have hcr := (mem_ranking.1 (List.mem_of_mem_take hn)).1
    rw [hcreated] at hcr
    refine ⟨n, Tree.get?_of_ids hids ?_, (mem_brood hcr).1⟩
    rw [htree]
    exact List.mem_append_right _ hcr

end Deliberation.Engine.TreeSearch
