import Deliberation.Debate.Verdict
import Deliberation.Proofs.Sort
import Mathlib.Data.List.Nodup

namespace Deliberation.Debate

variable {l l' earlier last : List Argument} {r : Nat}

structure Closing (l last : List Argument) : Prop where
  mem_iff : ∀ a, a ∈ last ↔ a ∈ l ∧ ∀ b ∈ l, b.round ≤ a.round
  ascending : last.Pairwise fun a b => a.debaterId < b.debaterId

def Distinct (l : List Argument) : Prop :=
  (l.map fun a => (a.round, a.debaterId)).Nodup

def ofRound (r : Nat) (l : List Argument) : List Argument :=
  l.filter fun a => a.round == r

theorem mem_ofRound {a : Argument} : a ∈ ofRound r l ↔ a ∈ l ∧ a.round = r := by
  simp [ofRound]

theorem max?_round_eq_some_iff :
    (l.map Argument.round).max? = some r ↔ (∃ a ∈ l, a.round = r) ∧ ∀ b ∈ l, b.round ≤ r := by
  rw [List.max?_eq_some_iff]
  simp

theorem exists_last_round (h : l ≠ []) : ∃ r, (l.map Argument.round).max? = some r := by
  refine Option.ne_none_iff_exists'.1 fun hn => h ?_
  rw [List.max?_eq_none_iff] at hn
  exact List.map_eq_nil_iff.1 hn

theorem lastRound_nil : lastRound [] = [] :=
  List.mergeSort_nil

theorem lastRound_eq (h : (l.map Argument.round).max? = some r) :
    lastRound l = (ofRound r l).mergeSort fun a b => a.debaterId ≤ b.debaterId := by
  rw [lastRound, h]
  rfl

theorem nodup_debaterId_ofRound (h : Distinct l) (r : Nat) :
    ((ofRound r l).map Argument.debaterId).Nodup := by
  have hkeys : ((ofRound r l).map fun a => (a.round, a.debaterId)).Nodup :=
    h.sublist (List.filter_sublist.map _)
  have hpair : (ofRound r l).map (fun a => (a.round, a.debaterId)) =
      ((ofRound r l).map Argument.debaterId).map fun d => (r, d) := by
    rw [List.map_map]
    exact List.map_congr_left fun a ha => by rw [(mem_ofRound.1 ha).2]; rfl
  rw [hpair] at hkeys
  exact hkeys.of_map

theorem closing_lastRound (h : Distinct l) (hr : (l.map Argument.round).max? = some r) :
    Closing l (lastRound l) := by
  obtain ⟨⟨a, ha, har⟩, hle⟩ := max?_round_eq_some_iff.1 hr
  rw [lastRound_eq hr]
  refine ⟨fun b => ?_, ?_⟩
  · rw [List.mem_mergeSort, mem_ofRound]
    refine and_congr_right fun hb => ⟨fun hbr c hc => hbr ▸ hle c hc, fun hall => ?_⟩
    exact Nat.le_antisymm (hle b hb) (har ▸ hall a ha)
  · exact ascending_mergeSort (nodup_debaterId_ofRound h r)

theorem lastRound_eq_of_perm (h : Distinct l) (he : ∀ e ∈ earlier, ∃ a ∈ l, e.round < a.round)
    (hp : l'.Perm (l ++ earlier)) : lastRound l' = lastRound l := by
  by_cases hnil : l = []
  · have hearlier : earlier = [] := List.eq_nil_iff_forall_not_mem.2 fun e hmem => by
      obtain ⟨a, ha, -⟩ := he e hmem
      rw [hnil] at ha
      cases ha
    rw [hnil, hearlier] at hp
    rw [hp.eq_nil, hnil]
  · obtain ⟨r, hr⟩ := exists_last_round hnil
    obtain ⟨⟨a, ha, har⟩, hle⟩ := max?_round_eq_some_iff.1 hr
    have hbelow : ∀ e ∈ earlier, e.round < r := by
      intro e hmem
      obtain ⟨b, hb, hlt⟩ := he e hmem
      exact Nat.lt_of_lt_of_le hlt (hle b hb)
    have hr' : (l'.map Argument.round).max? = some r := by
      refine max?_round_eq_some_iff.2
        ⟨⟨a, hp.mem_iff.2 (List.mem_append_left _ ha), har⟩, fun b hb => ?_⟩
      rcases List.mem_append.1 (hp.mem_iff.1 hb) with hb | hb
      · exact hle b hb
      · exact Nat.le_of_lt (hbelow b hb)
    have hround : (ofRound r l').Perm (ofRound r l) := by
      have hnone : ofRound r earlier = [] := List.filter_eq_nil_iff.2 fun e hmem => by
        simpa using Nat.ne_of_lt (hbelow e hmem)
      have hfilter := hp.filter fun a => a.round == r
      rw [List.filter_append] at hfilter
      change (ofRound r l').Perm (ofRound r l ++ ofRound r earlier) at hfilter
      rwa [hnone, List.append_nil] at hfilter
    rw [lastRound_eq hr', lastRound_eq hr]
    exact (mergeSort_eq_of_perm hround.symm (nodup_debaterId_ofRound h r)).symm

theorem fallback_of_last_round (h : Distinct l) :
    (∀ earlier l', (∀ e ∈ earlier, ∃ a ∈ l, e.round < a.round) → l'.Perm (l ++ earlier) →
      fallback l' = fallback l) ∧
    (l ≠ [] → ∃ first rest, Closing l (first :: rest) ∧
      fallback l =
        { selectedApproach := String.ofList (first.argument.toList.take 300)
          synthesizedInsights := "\n".intercalate ((first :: rest).map fun a =>
            "[" ++ a.perspective ++ "]: " ++ String.ofList (a.argument.toList.take 150))
          confidence := 0.5 }) ∧
    fallback [] =
      { selectedApproach := "Direct implementation approach"
        synthesizedInsights := "No insights available from debate"
        confidence := 0.5 } := by
  refine ⟨fun earlier l' he hp => ?_, fun hne => ?_, ?_⟩
  · rw [fallback, fallback, lastRound_eq_of_perm h he hp]
  · obtain ⟨r, hr⟩ := exists_last_round hne
    obtain ⟨⟨a, ha, har⟩, hle⟩ := max?_round_eq_some_iff.1 hr
    have hclosing := closing_lastRound h hr
    have hlast : a ∈ lastRound l := (hclosing.mem_iff a).2 ⟨ha, fun b hb => har ▸ hle b hb⟩
    obtain ⟨first, rest, hcons⟩ := List.exists_cons_of_ne_nil (List.ne_nil_of_mem hlast)
    rw [hcons] at hclosing
    refine ⟨first, rest, hclosing, ?_⟩
    rw [fallback, hcons]
    rfl
  · rw [fallback, lastRound_nil]

def quarrel : List Argument :=
  [⟨1, 1, "Skeptic", "Green is fresh"⟩, ⟨1, 0, "Pragmatist", "Blue is calm"⟩]

theorem fallback_of_last_round_quarrel :
    Distinct quarrel ∧
      (fallback (⟨0, 0, "Pragmatist", "Red is warm"⟩ :: quarrel)).selectedApproach =
        "Blue is calm" := by
  have h : Distinct quarrel := by
    rw [Distinct]
    decide
  obtain ⟨hmixed, hlast, -⟩ := fallback_of_last_round h
  obtain ⟨first, rest, ⟨hmem, hascending⟩, hfallback⟩ := hlast (by decide)
  refine ⟨h, ?_⟩
  rw [hmixed [⟨0, 0, "Pragmatist", "Red is warm"⟩] _ (by decide) (by decide), hfallback]
  have hpragmatist := (hmem ⟨1, 0, "Pragmatist", "Blue is calm"⟩).2 (by decide)
  rcases List.mem_cons.1 hpragmatist with rfl | hrest
  · change String.ofList ("Blue is calm".toList.take 300) = "Blue is calm"
    decide
  · exact absurd ((List.pairwise_cons.1 hascending).1 _ hrest) (Nat.not_lt_zero _)

end Deliberation.Debate
