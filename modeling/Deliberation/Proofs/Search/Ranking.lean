import Deliberation.Proofs.Sort
import Deliberation.Search.Tree

namespace Deliberation.Search

variable {nodes : List Node}

def outranks (a b : Node) : Bool :=
  match a.score, b.score with
  | some s, some t => t.rank < s.rank || s.rank == t.rank && a.id < b.id
  | _, _ => false

theorem outranks_iff {a b : Node} : outranks a b = true ↔ ∃ s t, a.score = some s ∧
    b.score = some t ∧ (t.rank < s.rank ∨ s.rank = t.rank ∧ a.id < b.id) := by
  rw [outranks]
  cases a.score <;> cases b.score <;> simp

theorem not_outranks_of_outranks {a b : Node} (h : outranks a b = true) :
    outranks b a = false := by
  obtain ⟨s, t, ha, hb, h⟩ := outranks_iff.1 h
  refine Bool.eq_false_iff.2 fun h' => ?_
  obtain ⟨t', s', hb', ha', h'⟩ := outranks_iff.1 h'
  cases ha.symm.trans ha'
  cases hb.symm.trans hb'
  omega

-- `precedes` is an order among scored nodes only, and sorting asks for one on all nodes.
def before (a b : Node) : Bool :=
  let rank (n : Node) : Int := (n.score.map Score.rank).getD 0
  rank b < rank a || rank a == rank b && a.id ≤ b.id

theorem before_trans (a b c : Node) (hab : before a b = true) (hbc : before b c = true) :
    before a c = true := by
  simp only [before, Bool.or_eq_true, decide_eq_true_eq, Bool.and_eq_true, beq_iff_eq] at *
  omega

theorem before_total (a b : Node) : (before a b || before b a) = true := by
  simp only [before, Bool.or_eq_true, decide_eq_true_eq, Bool.and_eq_true, beq_iff_eq]
  omega

theorem precedes_eq_before {a b : Node} (ha : a.score.isSome = true) (hb : b.score.isSome = true) :
    precedes a b = before a b := by
  obtain ⟨s, hs⟩ := Option.isSome_iff_exists.1 ha
  obtain ⟨t, ht⟩ := Option.isSome_iff_exists.1 hb
  simp [precedes, before, hs, ht]

theorem ranking_perm (nodes : List Node) :
    (ranking nodes).Perm (nodes.filter fun n => n.score.isSome) :=
  List.mergeSort_perm _ _

theorem mem_ranking {n : Node} : n ∈ ranking nodes ↔ n ∈ nodes ∧ n.score.isSome = true := by
  rw [(ranking_perm nodes).mem_iff, List.mem_filter]

theorem ranking_eq_mergeSort_before (nodes : List Node) :
    ranking nodes = (nodes.filter fun n => n.score.isSome).mergeSort before := by
  have h : ((nodes.filter fun n => n.score.isSome).mergeSort precedes).map id =
      ((nodes.filter fun n => n.score.isSome).map id).mergeSort before :=
    List.map_mergeSort fun a ha b hb =>
      precedes_eq_before (List.mem_filter.1 ha).2 (List.mem_filter.1 hb).2
  rwa [List.map_id, List.map_id] at h

theorem ranking_eq_insertionSort (nodes : List Node) :
    ranking nodes =
      (nodes.filter fun n => n.score.isSome).insertionSort fun a b => before a b = true :=
  (ranking_eq_mergeSort_before nodes).trans (mergeSort_eq_insertionSort before_trans before_total _)

theorem outranks_of_before {a b : Node} (ha : a.score.isSome = true) (hb : b.score.isSome = true)
    (hne : a.id ≠ b.id) (h : before a b = true) : outranks a b = true := by
  obtain ⟨s, hs⟩ := Option.isSome_iff_exists.1 ha
  obtain ⟨t, ht⟩ := Option.isSome_iff_exists.1 hb
  simp only [before, hs, ht, Option.map_some, Option.getD_some, Bool.or_eq_true,
    decide_eq_true_eq, Bool.and_eq_true, beq_iff_eq] at h
  exact outranks_iff.2 ⟨s, t, hs, ht, by omega⟩

theorem pairwise_ranking (h : (nodes.map Node.id).Nodup) :
    (ranking nodes).Pairwise fun a b => outranks a b = true := by
  have hs : (ranking nodes).Pairwise fun a b => before a b = true := by
    rw [ranking_eq_mergeSort_before]
    exact List.pairwise_mergeSort before_trans before_total _
  have hn : ((ranking nodes).map Node.id).Nodup :=
    ((ranking_perm nodes).map Node.id).nodup_iff.2 (h.sublist (List.filter_sublist.map _))
  refine (hs.and (List.pairwise_map.1 hn)).imp_of_mem fun ha hb hab => ?_
  exact outranks_of_before (mem_ranking.1 ha).2 (mem_ranking.1 hb).2 hab.2 hab.1

theorem filter_lt_eq_take {α : Type} {r : α → α → Bool}
    (hr : ∀ {a b}, r a b = true → r b a = false)
    (pre post : List α) (h : (pre ++ post).Pairwise fun a b => r a b = true) (k : Nat) :
    (post.filter fun a => ((pre ++ post).filter fun b => r b a).length < k) =
      post.take (k - pre.length) := by
  induction post generalizing pre with
  | nil => simp
  | cons a post ih =>
    have hi : r a a = false := Bool.eq_false_iff.2 fun ha => Bool.eq_false_iff.1 (hr ha) ha
    obtain ⟨hpre, hpost, hcross⟩ := List.pairwise_append.1 h
    have hb : ((pre ++ a :: post).filter fun b => r b a) = pre := by
      rw [List.filter_append, List.filter_cons_of_neg (by simp [hi]),
        List.filter_eq_self.2 fun b hb => hcross b hb a List.mem_cons_self,
        List.filter_eq_nil_iff.2 fun b hb => by simp [hr ((List.pairwise_cons.1 hpost).1 b hb)],
        List.append_nil]
    have hrest := ih (pre ++ [a]) (by rwa [List.append_assoc])
    rw [List.append_assoc, List.length_append] at hrest
    rw [List.filter_cons, hb]
    by_cases hk : pre.length < k
    · obtain ⟨m, hm⟩ : ∃ m, k - pre.length = m + 1 := ⟨k - pre.length - 1, by omega⟩
      have hm' : k - (pre.length + [a].length) = m := by
        rw [List.length_singleton]
        omega
      rw [if_pos (decide_eq_true hk), hm, List.take_succ_cons, ← hm']
      exact congrArg (List.cons a) hrest
    · have hz : k - pre.length = 0 := by omega
      have hz' : k - (pre.length + [a].length) = 0 := by omega
      rw [if_neg (by simpa using hk), hz, List.take_zero]
      rw [hz', List.take_zero] at hrest
      exact hrest

def outrankers (nodes : List Node) (n : Node) : List Node :=
  nodes.filter fun m => outranks m n

theorem length_outrankers_ranking (nodes : List Node) (n : Node) :
    (outrankers (ranking nodes) n).length = (outrankers nodes n).length := by
  have hp := (ranking_perm nodes).filter fun m => outranks m n
  have hf : (nodes.filter fun m => m.score.isSome).filter (fun m => outranks m n) =
      outrankers nodes n := by
    rw [List.filter_filter]
    refine List.filter_congr fun m _ => ?_
    cases hm : outranks m n with
    | false => rfl
    | true =>
      obtain ⟨s, _, hs, _⟩ := outranks_iff.1 hm
      rw [hs]
      rfl
  rw [hf] at hp
  exact hp.length_eq

theorem take_ranking_perm (h : (nodes.map Node.id).Nodup) (k : Nat) :
    ((ranking nodes).take k).Perm
      (nodes.filter fun n => n.score.isSome && (outrankers nodes n).length < k) := by
  have ht := filter_lt_eq_take not_outranks_of_outranks [] (ranking nodes) (pairwise_ranking h) k
  rw [List.length_nil, Nat.sub_zero] at ht
  have hc (n : Node) : ((([] : List Node) ++ ranking nodes).filter fun m => outranks m n).length =
      (outrankers nodes n).length := length_outrankers_ranking nodes n
  simp only [hc] at ht
  have hf : (nodes.filter fun n => n.score.isSome && (outrankers nodes n).length < k) =
      (nodes.filter fun n => n.score.isSome).filter fun n => (outrankers nodes n).length < k := by
    rw [List.filter_filter]
    exact List.filter_congr fun n _ => Bool.and_comm _ _
  rw [← ht, hf]
  exact (ranking_perm nodes).filter _

theorem best?_eq_none {t : Tree} (h : t.best? = none) : ∀ n ∈ t.nodes, n.score = none := by
  have hr : ranking t.nodes = [] := List.head?_eq_none_iff.1 h
  intro n hn
  refine Option.not_isSome_iff_eq_none.1 fun hs => ?_
  have hm := mem_ranking.2 ⟨hn, hs⟩
  rw [hr] at hm
  cases hm

theorem best?_of_unscored {t : Tree} (h : ∀ n ∈ t.nodes, n.score = none) : t.best? = none := by
  refine List.head?_eq_none_iff.2 (List.eq_nil_iff_forall_not_mem.2 fun n hn => ?_)
  obtain ⟨hm, hs⟩ := mem_ranking.1 hn
  rw [h n hm] at hs
  cases hs

theorem best?_eq_some {t : Tree} {n : Node} (h : (t.nodes.map Node.id).Nodup)
    (hb : t.best? = some n) :
    n ∈ t.nodes ∧ n.score.isSome = true ∧ ∀ m ∈ t.nodes, outranks m n = false := by
  obtain ⟨rest, hr⟩ := List.head?_eq_some_iff.1 hb
  obtain ⟨hn, hs⟩ := mem_ranking.1 (hr ▸ List.mem_cons_self)
  refine ⟨hn, hs, fun m hm => Bool.eq_false_iff.2 fun ho => ?_⟩
  obtain ⟨s, _, hms, _⟩ := outranks_iff.1 ho
  have hmr : m ∈ n :: rest := hr ▸ mem_ranking.2 ⟨hm, by rw [hms]; rfl⟩
  have hp := pairwise_ranking h
  rw [hr] at hp
  rcases List.mem_cons.1 hmr with rfl | hmr
  · exact Bool.eq_false_iff.1 (not_outranks_of_outranks ho) ho
  · have hnm := (List.pairwise_cons.1 hp).1 m hmr
    exact Bool.eq_false_iff.1 (not_outranks_of_outranks ho) hnm

end Deliberation.Search
