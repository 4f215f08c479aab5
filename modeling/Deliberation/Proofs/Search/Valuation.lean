import Deliberation.Proofs.Number.Status
import Deliberation.Proofs.Search.Construction
import Deliberation.Proofs.Search.Improvement

namespace Deliberation.Search

open Number

namespace Score

def zero : Score :=
  ⟨0⟩

def minusZero : Score :=
  ⟨0x8000000000000000⟩

variable {s u : Score}

theorem value_clamped (s : Score) : s.clamped.value = clamp s.value := by
  rw [clamped, clamp]
  split
  · exact Float.ofBits_toBits 0.0
  · split
    · exact Float.ofBits_toBits 1.0
    · rfl

theorem inUnit_clamped_iff (s : Score) : InUnit s.clamped.value ↔ s.value.isNaN = false := by
  rw [value_clamped]
  exact inUnit_clamp_iff

theorem eq_minusZero_of_clamped (h : s.clamped = minusZero) : s = minusZero := by
  rw [clamped] at h
  split at h
  · exact absurd h (by decide)
  · split at h
    · exact absurd h (by decide)
    · exact h

theorem value_beq_iff (hs : InUnit s.value) (hu : InUnit u.value) :
    (s.value == u.value) = true ↔ s.bits.toNat % signBound = u.bits.toNat % signBound := by
  rw [beq_iff_le_and_le, value_le_iff hs hu, value_le_iff hu hs, le_antisymm_iff]

theorem eq_iff_toNat : s = u ↔ s.bits.toNat = u.bits.toNat := by
  cases s
  cases u
  simp [UInt64.toNat_inj]

-- Both orders are read off the bits, of which those of minus zero are the greatest.
theorem leads_iff_rank (hs : InUnit s.value) (hu : InUnit u.value) {m n : Nat} :
    (u.value ≤ s.value ∧
      ((s.value == u.value) = true → s = u ∧ m < n ∨ s = zero ∧ u = minusZero)) ↔
    (u.rank < s.rank ∨ s.rank = u.rank ∧ m < n) := by
  have hsb := bits_le hs
  have hub := bits_le hu
  have hzero : zero.bits.toNat = 0 := rfl
  have hminus : minusZero.bits.toNat = signBound := rfl
  rw [value_le_iff hu hs, value_beq_iff hs hu, eq_iff_toNat, eq_iff_toNat, eq_iff_toNat, hzero,
    hminus, rank, rank]
  simp only [signBound] at *
  omega

end Score

/-- Before another by value. Equal values go by age, except that zero goes before minus zero. -/
def Leads (a b : Node) : Prop :=
  ∃ s u, a.score = some s ∧ b.score = some u ∧ u.value ≤ s.value ∧
    ((s.value == u.value) = true →
      s = u ∧ a.id < b.id ∨ s = .zero ∧ u = .minusZero)

def LeadsByAge (a b : Node) : Prop :=
  ∃ s u, a.score = some s ∧ b.score = some u ∧ u.value ≤ s.value ∧
    ((s.value == u.value) = true → a.id < b.id)

theorem Leads.byAge {a b : Node} (h : Leads a b) (hb : b.score ≠ some .minusZero) :
    LeadsByAge a b := by
  obtain ⟨s, u, hs, hu, hle, htie⟩ := h
  refine ⟨s, u, hs, hu, hle, fun heq => ?_⟩
  rcases htie heq with ⟨-, hage⟩ | ⟨-, rfl⟩
  · exact hage
  · exact absurd hu hb

theorem leads_iff_outranks {a b : Node} (ha : ∀ s, a.score = some s → InUnit s.value)
    (hb : ∀ s, b.score = some s → InUnit s.value) : Leads a b ↔ outranks a b = true := by
  rw [outranks_iff]
  constructor
  · rintro ⟨s, u, hs, hu, h⟩
    exact ⟨s, u, hs, hu, (Score.leads_iff_rank (ha s hs) (hb u hu)).1 h⟩
  · rintro ⟨s, u, hs, hu, h⟩
    exact ⟨s, u, hs, hu, (Score.leads_iff_rank (ha s hs) (hb u hu)).2 h⟩

namespace Tree

variable {t : Tree} {nodes : List Node}

theorem score_build {content : Option String} {additions : List Addition} {n : Node} {s : Score}
    (hn : n ∈ ((founded content).build additions).nodes) (hs : n.score = some s) :
    ∃ a ∈ additions, ∃ x, n = a.node n.id n.depth ∧ a.score = some x ∧
      (InUnit s.value ↔ x.value.isNaN = false) := by
  obtain ⟨a, ha, hnode⟩ := node_build hn (by rw [hs]; rfl)
  have hscore : a.score.map Score.clamped = some s := by
    rw [hnode] at hs
    exact hs
  obtain ⟨x, hx, rfl⟩ := Option.map_eq_some_iff.1 hscore
  exact ⟨a, ha, x, hnode, hx, x.inUnit_clamped_iff⟩

theorem inUnit_build {content : Option String} {additions : List Addition}
    (h : ∀ a ∈ additions, ∀ s, a.score = some s → s.value.isNaN = false) :
    ∀ n ∈ ((founded content).build additions).nodes, ∀ s, n.score = some s → InUnit s.value := by
  intro n hn s hs
  obtain ⟨a, ha, x, -, hx, hiff⟩ := score_build hn hs
  exact hiff.2 (h a ha x hx)

theorem ne_minusZero_build {content : Option String} {additions : List Addition}
    (h : ∀ a ∈ additions, a.score ≠ some .minusZero) :
    ∀ n ∈ ((founded content).build additions).nodes, n.score ≠ some .minusZero := by
  intro n hn hs
  obtain ⟨a, ha, x, hnode, hx, -⟩ := score_build hn hs
  rw [hnode, Addition.node, hx, Option.map_some] at hs
  exact h a ha (Score.eq_minusZero_of_clamped (Option.some.inj hs) ▸ hx)

theorem best?_eq_none_iff : t.best? = none ↔ ∀ n ∈ t.nodes, n.score = none :=
  ⟨best?_eq_none, best?_of_unscored⟩

theorem best?_eq_some_iff (hids : (t.nodes.map Node.id).Nodup) {n : Node} :
    t.best? = some n ↔ n ∈ t.nodes ∧ n.score.isSome = true ∧
      ∀ m ∈ t.nodes, m.score.isSome = true → m ≠ n → outranks n m = true := by
  have hpairs := pairwise_ranking hids
  constructor
  · intro hb
    obtain ⟨rest, hr⟩ := List.head?_eq_some_iff.1 hb
    rw [hr] at hpairs
    obtain ⟨hn, hs⟩ := mem_ranking.1 (hr ▸ List.mem_cons_self)
    refine ⟨hn, hs, fun m hm hms hne => ?_⟩
    have hmr : m ∈ n :: rest := hr ▸ mem_ranking.2 ⟨hm, hms⟩
    exact (List.pairwise_cons.1 hpairs).1 m ((List.mem_cons.1 hmr).resolve_left hne)
  · rintro ⟨hn, hs, hfirst⟩
    have hnr : n ∈ ranking t.nodes := mem_ranking.2 ⟨hn, hs⟩
    obtain ⟨m, rest, hr⟩ := List.exists_cons_of_ne_nil (List.ne_nil_of_mem hnr)
    rw [best?, hr, List.head?_cons]
    refine congrArg some (by_contra fun hne => ?_)
    obtain ⟨hm, hms⟩ := mem_ranking.1 (hr ▸ List.mem_cons_self)
    rw [hr] at hnr hpairs
    have hmn := (List.pairwise_cons.1 hpairs).1 n ((List.mem_cons.1 hnr).resolve_left (Ne.symm hne))
    -- Of two nodes only one outranks the other.
    exact Bool.eq_false_iff.1 (not_outranks_of_outranks (hfirst m hm hms hne)) hmn

theorem nodup_build (content : Option String) (additions : List Addition) :
    (((founded content).build additions).nodes.map Node.id).Nodup := by
  rw [(linked_build content additions).ids]
  exact List.nodup_range

theorem build_ranked (content : Option String) {additions : List Addition}
    (h : ∀ a ∈ additions, ∀ s, a.score = some s → s.value.isNaN = false) :
    let t := (founded content).build additions
    (∀ nodes, nodes.Sublist t.nodes →
      (ranking nodes).Nodup ∧
      (∀ n, n ∈ ranking nodes ↔ n ∈ nodes ∧ n.score.isSome = true) ∧
      (ranking nodes).Pairwise Leads) ∧
    (t.best? = none ↔ ∀ n ∈ t.nodes, n.score = none) ∧
    (∀ n, t.best? = some n ↔ n ∈ t.nodes ∧ n.score.isSome = true ∧
      ∀ m ∈ t.nodes, m.score.isSome = true → m ≠ n → Leads n m) ∧
    ((∀ a ∈ additions, a.score ≠ some .minusZero) →
      ∀ m ∈ t.nodes, ∀ n ∈ t.nodes, Leads m n → LeadsByAge m n) := by
  intro t
  have hids := nodup_build content additions
  have hunit : ∀ n ∈ t.nodes, ∀ s, n.score = some s → InUnit s.value := inUnit_build h
  have hleads : ∀ m ∈ t.nodes, ∀ n ∈ t.nodes, Leads m n ↔ outranks m n = true :=
    fun m hm n hn => leads_iff_outranks (hunit m hm) (hunit n hn)
  refine ⟨fun nodes hsub => ⟨?_, fun n => mem_ranking, ?_⟩, best?_eq_none_iff, fun n => ?_,
    fun hminus m _ n hn hmn => hmn.byAge (ne_minusZero_build hminus n hn)⟩
  · have hnodes : nodes.Nodup := hids.of_map.sublist hsub
    exact (ranking_perm nodes).nodup_iff.2 (hnodes.filter _)
  · refine (pairwise_ranking (hids.sublist (hsub.map Node.id))).imp_of_mem fun ha hb hab => ?_
    exact (hleads _ (hsub.subset (mem_ranking.1 ha).1) _ (hsub.subset (mem_ranking.1 hb).1)).2 hab
  · rw [best?_eq_some_iff hids]
    refine and_congr_right fun hn => and_congr_right fun _ => forall₂_congr fun m hm => ?_
    rw [hleads n hn m hm]

def colours : List Addition :=
  [⟨0, "Blue", some .minusZero⟩, ⟨0, "Green", some .zero⟩, ⟨1, "Red", none⟩,
    ⟨2, "Grey", some ⟨0x7ff0000000000000⟩⟩]

theorem build_ranked_colours :
    (∀ a ∈ colours, ∀ s, a.score = some s → s.value.isNaN = false) ∧
    ∃ n, ((founded none).build colours).best? = none ∧
      ((founded (some "Name a colour")).build colours).best? = some n ∧ n.content = "Grey" := by
  have h : ∀ a ∈ colours, ∀ s, a.score = some s → s.value.isNaN = false := by
    simp only [colours, List.forall_mem_cons]
    refine ⟨?_, ?_, ?_, ?_, by simp⟩ <;> rintro s ⟨⟩ <;> decide
  have hgrey : (⟨4, some 2, 2, "Grey", some (.ofFloat 1.0)⟩ : Node) ∈
      ((founded (some "Name a colour")).build colours).nodes := by decide
  have hbest := ((build_ranked (some "Name a colour") h).2.2.1 _).2
    ⟨hgrey, rfl, fun m hm hs hne => ?_⟩
  · exact ⟨h, _, ((build_ranked none h).2.1).2 (by decide), hbest, rfl⟩
  · refine (leads_iff_outranks (inUnit_build h _ hgrey) (inUnit_build h m hm)).2 ?_
    revert m
    decide

theorem older_minusZero_passed_over :
    let t := (founded (some "Name a colour")).build (colours.take 2)
    ∃ m n, m ∈ t.nodes ∧ t.best? = some n ∧ m.id < n.id ∧
      m.score = some .minusZero ∧ n.score = some .zero ∧
      (Score.minusZero.value == Score.zero.value) = true := by
  intro t
  refine ⟨⟨1, some 0, 1, "Blue", some .minusZero⟩, ⟨2, some 0, 1, "Green", some .zero⟩,
    by decide, ?_, by decide⟩
  exact (best?_eq_some_iff (nodup_build _ _)).2 (by decide)

end Tree

end Deliberation.Search
