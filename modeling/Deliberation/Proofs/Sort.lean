import Mathlib.Data.List.Sort

namespace Deliberation

variable {α : Type} {le : α → α → Bool} {key : α → Nat} {l m : List α}

theorem orderedInsert_append {l₁ l₂ : List α} {a : α} (hbefore : ∀ b ∈ l₁, le a b = false)
    (hafter : ∀ b ∈ l₂, le a b = true) :
    (l₁ ++ l₂).orderedInsert (fun a b => le a b = true) a = l₁ ++ a :: l₂ := by
  induction l₁ with
  | nil =>
    cases l₂ with
    | nil => rfl
    | cons b l₂ => exact List.orderedInsert_cons_of_le _ l₂ (hafter b List.mem_cons_self)
  | cons b l₁ ih =>
    obtain ⟨hb, hbefore⟩ := List.forall_mem_cons.1 hbefore
    rw [List.cons_append, List.orderedInsert_cons, if_neg (Bool.eq_false_iff.1 hb), ih hbefore]
    rfl

theorem mergeSort_eq_insertionSort
    (trans : ∀ a b c, le a b = true → le b c = true → le a c = true)
    (total : ∀ a b, (le a b || le b a) = true) (l : List α) :
    l.mergeSort le = l.insertionSort fun a b => le a b = true := by
  induction l with
  | nil => exact List.mergeSort_nil
  | cons a l ih =>
    obtain ⟨l₁, l₂, hcons, hrest, hbefore⟩ := List.mergeSort_cons trans total a l
    have hsorted := List.pairwise_mergeSort trans total (a :: l)
    rw [hcons] at hsorted
    obtain ⟨hafter, -⟩ := List.pairwise_cons.1 (List.pairwise_append.1 hsorted).2.1
    rw [List.insertionSort_cons, ← ih, hcons, hrest]
    exact (orderedInsert_append (fun b hb => by simpa using hbefore b hb) hafter).symm

theorem key_trans (a b c : α) (hab : decide (key a ≤ key b) = true)
    (hbc : decide (key b ≤ key c) = true) : decide (key a ≤ key c) = true :=
  decide_eq_true (Nat.le_trans (of_decide_eq_true hab) (of_decide_eq_true hbc))

theorem key_total (a b : α) : (decide (key a ≤ key b) || decide (key b ≤ key a)) = true := by
  simp only [Bool.or_eq_true, decide_eq_true_eq]
  exact Nat.le_total _ _

theorem mergeSort_cons_key (a : α) (l : List α) :
    ∃ l₁ l₂, ((a :: l).mergeSort fun a b => key a ≤ key b) = l₁ ++ a :: l₂ ∧
      (l.mergeSort fun a b => key a ≤ key b) = l₁ ++ l₂ ∧
      (∀ b ∈ l₁, key b < key a) ∧ ∀ b ∈ l₂, key a ≤ key b := by
  obtain ⟨l₁, l₂, hcons, hrest, hbefore⟩ :=
    List.mergeSort_cons (@key_trans α key) key_total a l
  have hsorted : ((a :: l).mergeSort fun a b => key a ≤ key b).Pairwise
      fun a b => decide (key a ≤ key b) = true := List.pairwise_mergeSort key_trans key_total _
  rw [hcons] at hsorted
  obtain ⟨hafter, -⟩ := List.pairwise_cons.1 (List.pairwise_append.1 hsorted).2.1
  refine ⟨l₁, l₂, hcons, hrest, fun b hb => ?_, fun b hb => of_decide_eq_true (hafter b hb)⟩
  simpa using hbefore b hb

theorem ascending_mergeSort (h : (l.map key).Nodup) :
    (l.mergeSort fun a b => key a ≤ key b).Pairwise fun a b => key a < key b := by
  have hle : (l.mergeSort fun a b => key a ≤ key b).Pairwise fun a b => decide (key a ≤ key b) :=
    List.pairwise_mergeSort key_trans key_total l
  have hne : (l.mergeSort fun a b => key a ≤ key b).Pairwise fun a b => key a ≠ key b :=
    List.pairwise_map.1 (((List.mergeSort_perm _ _).map key).nodup_iff.2 h)
  exact (hle.and hne).imp fun h => Nat.lt_of_le_of_ne (of_decide_eq_true h.1) h.2

theorem mergeSort_eq_of_perm (hp : l.Perm m) (h : (l.map key).Nodup) :
    (l.mergeSort fun a b => key a ≤ key b) = m.mergeSort fun a b => key a ≤ key b := by
  have hm : (m.map key).Nodup := (hp.map key).nodup_iff.1 h
  refine List.Perm.eq_of_pairwise (fun a b _ _ hab hba => ?_) (ascending_mergeSort h)
    (ascending_mergeSort hm) ?_
  · exact absurd hab (Nat.lt_asymm hba)
  · exact (List.mergeSort_perm l _).trans (hp.trans (List.mergeSort_perm m _).symm)

end Deliberation
