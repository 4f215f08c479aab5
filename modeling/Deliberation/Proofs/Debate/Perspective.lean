import Deliberation.Debate.Perspective
import Deliberation.Proofs.Json.Printing
import Mathlib.Data.List.GetD
import Mathlib.Data.List.Nodup

namespace Deliberation.Debate

open Json Deliberation.Number

def place (i : Nat) : Fin roster.length :=
  ⟨i % roster.length, Nat.mod_lt i (by decide)⟩

def mark : Nat → List Char
  | 0 => []
  | cycle + 1 => ' ' :: Nat.toDigits 10 (cycle + 2)

def numberIn (s : List Char) : Nat :=
  valueOf (s.filter isDigit)

theorem nodup_roster : roster.Nodup := by
  decide

theorem not_isDigit_of_mem_roster {name : String} (h : name ∈ roster) :
    ∀ c ∈ name.toList, ¬isDigit c := by
  have hall : (roster.all fun name => name.toList.all fun c => !isDigit c) = true := by decide
  intro c hc
  have hdigit := List.all_eq_true.1 (List.all_eq_true.1 hall name h) c hc
  simpa using hdigit

theorem toList_perspective (i : Nat) :
    (perspective i).toList = (roster.get (place i)).toList ++ mark (i / roster.length) := by
  have hbase : roster.getD (i % roster.length) "" = roster.get (place i) :=
    List.getD_eq_get roster "" (place i)
  rw [perspective, hbase]
  cases i / roster.length with
  | zero => exact (List.append_nil _).symm
  | succ cycle =>
    simp only [String.toList_append, Nat.toList_repr, mark, List.append_assoc]
    rfl

theorem numberIn_append_of_not_isDigit {s t : List Char} (h : ∀ c ∈ s, ¬isDigit c) :
    numberIn (s ++ t) = numberIn t := by
  rw [numberIn, List.filter_append, List.filter_eq_nil_iff.2 h, List.nil_append, numberIn]

theorem numberIn_mark (cycle : Nat) :
    numberIn (mark cycle) = if cycle = 0 then 0 else cycle + 1 := by
  cases cycle with
  | zero => rfl
  | succ cycle =>
    have hspace : ∀ c ∈ [' '], ¬isDigit c := List.forall_mem_singleton.2 (by decide)
    calc numberIn (mark (cycle + 1))
        = numberIn (Nat.toDigits 10 (cycle + 2)) := numberIn_append_of_not_isDigit hspace
      _ = valueOf (Nat.toDigits 10 (cycle + 2)) := by
          rw [numberIn, List.filter_eq_self.2 (isDigit_toDigits _)]
      _ = cycle + 2 := valueOf_toDigits _

theorem numberIn_mark_injective : Function.Injective fun cycle => numberIn (mark cycle) := by
  intro m n h
  simp only [numberIn_mark] at h
  split at h <;> split at h <;> omega

theorem numberIn_perspective (i : Nat) :
    numberIn (perspective i).toList = numberIn (mark (i / roster.length)) := by
  rw [toList_perspective, numberIn_append_of_not_isDigit
    (not_isDigit_of_mem_roster (List.get_mem _ _))]

theorem perspective_injective : Function.Injective perspective := by
  intro i j h
  have hcycle : i / roster.length = j / roster.length := by
    refine numberIn_mark_injective ?_
    simp only [← numberIn_perspective, h]
  have hplace : i % roster.length = j % roster.length := by
    have htext := congrArg String.toList h
    rw [toList_perspective, toList_perspective, hcycle, List.append_cancel_right_eq,
      String.toList_inj] at htext
    exact Fin.val_eq_of_eq (List.nodup_iff_injective_get.1 nodup_roster htext)
  rw [← Nat.div_add_mod i roster.length, hcycle, hplace, Nat.div_add_mod]

theorem nodup_perspectives (count : Nat) : (perspectives count).Nodup :=
  List.nodup_range.map perspective_injective

theorem take_perspectives {m count : Nat} (h : m ≤ count) :
    (perspectives count).take m = perspectives m := by
  rw [perspectives, ← List.map_take, List.take_range, Nat.min_eq_left h, perspectives]

theorem perspectives_distinct (count : Nat) :
    (perspectives count).length = count ∧ (perspectives count).Nodup ∧
      ∀ m ≤ count, perspectives m <+: perspectives count := by
  refine ⟨length_perspectives count, nodup_perspectives count, fun m hm => ?_⟩
  rw [← take_perspectives hm]
  exact List.take_prefix m _

theorem perspectives_distinct_past_roster :
    roster.length ≤ 12 ∧ perspectives roster.length = roster ∧
    (perspectives 12).Nodup ∧ roster <+: perspectives 12 ∧
    perspective 11 = "Skeptic 3" := by
  obtain ⟨-, hnodup, hprefix⟩ := perspectives_distinct 12
  exact ⟨by decide, rfl, hnodup, hprefix roster.length (by decide), rfl⟩

end Deliberation.Debate
