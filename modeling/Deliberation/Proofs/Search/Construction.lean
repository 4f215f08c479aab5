import Deliberation.Proofs.Search.Growth

namespace Deliberation.Search

structure Addition where
  parent : Nat
  content : String
  score : Option Score
  deriving DecidableEq, Repr

def Addition.node (a : Addition) (id depth : Nat) : Node :=
  ⟨id, some a.parent, depth, a.content, a.score.map Score.clamped⟩

namespace Tree

def founded : Option String → Tree
  | some content => ofRoot content
  | none => empty

def add (t : Tree) (a : Addition) : Tree × Option Nat :=
  match t.addChild? a.parent a.content a.score with
  | some (u, id) => (u, some id)
  | none => (t, none)

def build (t : Tree) (additions : List Addition) : Tree :=
  additions.foldl (fun t a => (t.add a).1) t

inductive Adds (t : Tree) (a : Addition) : Tree × Option Nat → Prop where
  | missing (h : t.size ≤ a.parent) : t.Adds a (t, none)
  | appended (p : Node) (h : t.get? a.parent = some p) :
      t.Adds a (⟨t.nodes ++ [a.node t.size (p.depth + 1)]⟩, some t.size)

variable {t : Tree} {n m : Node} {p id : Nat} {line : List Node} {noted found : List String}

theorem adds_add (t : Tree) (a : Addition) : t.Adds a (t.add a) := by
  cases hp : t.get? a.parent with
  | none =>
    have hadd : t.add a = (t, none) := by
      rw [add, addChild?, hp]
      rfl
    rw [hadd]
    exact .missing (List.getElem?_eq_none_iff.1 hp)
  | some p =>
    have hadd : t.add a = (⟨t.nodes ++ [a.node t.size (p.depth + 1)]⟩, some t.size) := by
      rw [add, addChild?, hp]
      rfl
    rw [hadd]
    exact .appended p hp

theorem prefix_add (t : Tree) (a : Addition) : t.nodes <+: (t.add a).1.nodes := by
  have h := adds_add t a
  generalize t.add a = r at h
  cases h with
  | missing => exact List.prefix_rfl
  | appended => exact List.prefix_append _ _

theorem prefix_build (t : Tree) (additions : List Addition) :
    t.nodes <+: (t.build additions).nodes := by
  induction additions generalizing t with
  | nil => exact List.prefix_rfl
  | cons a additions ih => exact (prefix_add t a).trans (ih (t.add a).1)

theorem build_induction {P : Tree → Prop} {additions : List Addition} (h : P t)
    (hadd : ∀ u, ∀ a ∈ additions, P u → P (u.add a).1) : P (t.build additions) := by
  induction additions generalizing t with
  | nil => exact h
  | cons a additions ih =>
    exact ih (hadd t a List.mem_cons_self h) fun u b hb => hadd u b (List.mem_cons_of_mem a hb)

theorem node_build {content : Option String} {additions : List Addition}
    (hn : n ∈ ((founded content).build additions).nodes) (hs : n.score.isSome = true) :
    ∃ a ∈ additions, n = a.node n.id n.depth := by
  refine build_induction (P := fun t => ∀ n ∈ t.nodes, n.score.isSome = true →
    ∃ a ∈ additions, n = a.node n.id n.depth) ?_ ?_ n hn hs
  · cases content with
    | none => exact fun n hn => absurd hn List.not_mem_nil
    | some content =>
      intro n hn hs
      rw [List.mem_singleton.1 hn] at hs
      cases hs
  · intro u a ha hu
    have h := adds_add u a
    generalize u.add a = r at h
    cases h with
    | missing => exact hu
    | appended p =>
      intro n hn hs
      rcases List.mem_append.1 hn with hn | hn
      · exact hu n hn hs
      · exact ⟨a, ha, List.mem_singleton.1 hn ▸ rfl⟩

structure Linked (t : Tree) : Prop where
  ids : t.nodes.map Node.id = List.range t.size
  orphan : ∀ n ∈ t.nodes, n.parent = none ↔ n.id = 0
  top : ∀ n ∈ t.nodes, n.parent = none → n.depth = 0
  below : ∀ n ∈ t.nodes, ∀ p, n.parent = some p →
    p < n.id ∧ ∃ m, t.get? p = some m ∧ n.depth = m.depth + 1

theorem linked_founded (content : Option String) : (founded content).Linked := by
  cases content with
  | none =>
    refine ⟨rfl, ?_, ?_, ?_⟩ <;> exact fun n hn => absurd hn List.not_mem_nil
  | some content =>
    have hroot : ∀ n ∈ (ofRoot content).nodes, n = ⟨0, none, 0, content, none⟩ :=
      fun n hn => List.mem_singleton.1 hn
    refine ⟨rfl, ?_, ?_, ?_⟩
    · intro n hn
      simp [hroot n hn]
    · intro n hn _
      rw [hroot n hn]
    · intro n hn p hp
      rw [hroot n hn] at hp
      cases hp

theorem Linked.add (h : t.Linked) (a : Addition) : (t.add a).1.Linked := by
  have hadds := adds_add t a
  generalize t.add a = r at hadds
  cases hadds with
  | missing => exact h
  | appended p hp =>
    obtain ⟨hlt, -⟩ := List.getElem?_eq_some_iff.1 hp
    have hlt : a.parent < t.size := hlt
    have hold : ∀ {i m}, t.get? i = some m →
        get? ⟨t.nodes ++ [a.node t.size (p.depth + 1)]⟩ i = some m := by
      intro i m hm
      obtain ⟨hi, -⟩ := List.getElem?_eq_some_iff.1 hm
      exact (List.getElem?_append_left hi).trans hm
    have hnew : ∀ {n}, n ∈ t.nodes ++ [a.node t.size (p.depth + 1)] →
        n ∈ t.nodes ∨ n = a.node t.size (p.depth + 1) := by
      intro n hn
      rw [List.mem_append, List.mem_singleton] at hn
      exact hn
    refine ⟨?_, ?_, ?_, ?_⟩
    · rw [List.map_append, h.ids]
      simp [size, List.range_succ, Addition.node]
    · intro n hn
      rcases hnew hn with hn | rfl
      · exact h.orphan n hn
      · have hpos : t.size ≠ 0 := by omega
        simp [Addition.node, hpos]
    · intro n hn hnone
      rcases hnew hn with hn | rfl
      · exact h.top n hn hnone
      · cases hnone
    · intro n hn q hq
      rcases hnew hn with hn | rfl
      · obtain ⟨hlt, m, hm, hd⟩ := h.below n hn q hq
        exact ⟨hlt, m, hold hm, hd⟩
      · cases hq
        exact ⟨hlt, p, hold hp, rfl⟩

theorem linked_build (content : Option String) (additions : List Addition) :
    ((founded content).build additions).Linked :=
  build_induction (linked_founded content) fun _ a _ h => h.add a

inductive Line (t : Tree) : Node → List Node → Prop where
  | root {n : Node} (h : n.parent = none) : t.Line n []
  | child {n m : Node} {p : Nat} {line : List Node} (h : n.parent = some p)
      (hm : t.get? p = some m) (rest : t.Line m line) : t.Line n (line ++ [n])

/-- The way up from a node, with what was noted below it: it ends above the root, and does not
end where parents go round. -/
inductive Climbs (t : Tree) : Option Node → List String → List String → Prop where
  | nowhere {noted : List String} : t.Climbs none noted noted
  | root {n : Node} {noted : List String} (h : n.parent = none) : t.Climbs (some n) noted noted
  | up {n : Node} {p : Nat} {noted found : List String} (h : n.parent = some p)
      (rest : t.Climbs (t.get? p) (n.content :: noted) found) : t.Climbs (some n) noted found

theorem Climbs.unique {o : Option Node} {found' : List String} (h : t.Climbs o noted found)
    (h' : t.Climbs o noted found') : found = found' := by
  induction h with
  | nowhere =>
    cases h'
    rfl
  | root hn =>
    cases h' with
    | root => rfl
    | up hp => exact nomatch hn.symm.trans hp
  | up hp _ ih =>
    cases h' with
    | root hn => exact nomatch hn.symm.trans hp
    | up hq hrest =>
      cases hp.symm.trans hq
      exact ih hrest

theorem Line.climbs (h : t.Line n line) (noted : List String) :
    t.Climbs (some n) noted (line.map Node.content ++ noted) := by
  induction h generalizing noted with
  | root hn => exact .root hn
  | @child n m p line hn hm _ ih =>
    have hup := ih (n.content :: noted)
    rw [← hm] at hup
    rw [List.map_append, List.append_assoc]
    exact .up hn hup

namespace Linked

theorem id_of_get? (h : t.Linked) (hn : t.get? id = some n) : n.id = id := by
  have hm : (t.nodes.map Node.id)[id]? = some n.id := by
    rw [List.getElem?_map, show t.nodes[id]? = some n from hn]
    rfl
  rw [h.ids, List.getElem?_eq_some_iff] at hm
  obtain ⟨_, hm⟩ := hm
  rw [← hm, List.getElem_range]

theorem exists_line (h : t.Linked) (hn : t.get? id = some n) :
    ∃ line, t.Line n line ∧ line.length = n.depth := by
  -- Parents are older, so that the ids carry the induction.
  induction id using Nat.strongRecOn generalizing n with
  | ind id ih =>
    have hmem := List.mem_of_getElem? hn
    cases hp : n.parent with
    | none => exact ⟨[], .root hp, (h.top n hmem hp).symm⟩
    | some p =>
      obtain ⟨hlt, m, hm, hd⟩ := h.below n hmem p hp
      rw [h.id_of_get? hn] at hlt
      obtain ⟨line, hline, hlength⟩ := ih p hlt hm
      refine ⟨line ++ [n], .child hp hm hline, ?_⟩
      rw [List.length_append, hlength, hd]
      rfl

theorem path_eq (h : t.Linked) (hline : t.Line n line) (hn : t.get? id = some n) :
    t.path id = line.map Node.content := by
  induction hline generalizing id with
  | root hp =>
    rw [path, hn]
    dsimp only
    rw [hp]
    rfl
  | @child n m p line hp hm _ ih =>
    obtain ⟨hlt, -⟩ := h.below n (List.mem_of_getElem? hn) p hp
    rw [h.id_of_get? hn] at hlt
    rw [path, hn]
    dsimp only
    rw [hp]
    dsimp only
    rw [if_pos hlt, ih hm, List.map_append]
    rfl

theorem climbs_path (h : t.Linked) (id : Nat) : t.Climbs (t.get? id) [] (t.path id) := by
  cases hn : t.get? id with
  | none =>
    rw [path, hn]
    exact .nowhere
  | some n =>
    obtain ⟨line, hline, -⟩ := h.exists_line hn
    have hup := hline.climbs []
    rwa [List.append_nil, ← h.path_eq hline hn] at hup

theorem existsUnique_parent (h : t.Linked) (hn : n ∈ t.nodes) (hid : n.id ≠ 0) :
    ∃! p, n ∈ t.children p := by
  obtain ⟨p, hp⟩ := Option.ne_none_iff_exists'.1 (mt (h.orphan n hn).1 hid)
  refine ⟨p, List.mem_filter.2 ⟨hn, by simp [hp]⟩, fun q hq => ?_⟩
  have hq : n.parent = some q := by simpa using (List.mem_filter.1 hq).2
  exact Option.some.inj (hq.symm.trans hp)

theorem pairwise_children (h : t.Linked) (p : Nat) :
    (t.children p).Pairwise fun m n => m.id < n.id := by
  have hids : (t.nodes.map Node.id).Pairwise (· < ·) := by
    rw [h.ids]
    exact List.pairwise_lt_range
  exact (List.pairwise_map.1 hids).sublist List.filter_sublist

end Linked

theorem build_linked (content : Option String) (additions : List Addition) :
    let t := (founded content).build additions
    t.Linked ∧
      (∀ a, t.Adds a (t.add a)) ∧
      (∀ more, t.nodes <+: (t.build more).nodes) ∧
      (∀ n ∈ t.nodes, n.id ≠ 0 → ∃! p, n ∈ t.children p) ∧
      (∀ p, (t.children p).Pairwise fun m n => m.id < n.id) ∧
      (∀ id found, t.Climbs (t.get? id) [] found ↔ found = t.path id) ∧
      ∀ id n, t.get? id = some n →
        ∃ line, t.Line n line ∧ line.length = n.depth ∧ t.path id = line.map Node.content := by
  intro t
  have h : t.Linked := linked_build content additions
  refine ⟨h, adds_add t, prefix_build t, fun n hn => h.existsUnique_parent hn,
    h.pairwise_children, fun id found => ?_, fun id n hn => ?_⟩
  · constructor
    · exact fun hup => hup.unique (h.climbs_path id)
    · rintro rfl
      exact h.climbs_path id
  · obtain ⟨line, hline, hlength⟩ := h.exists_line hn
    exact ⟨line, hline, hlength, h.path_eq hline hn⟩

end Tree

end Deliberation.Search
