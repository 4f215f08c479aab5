import Deliberation.Proofs.Sort
import Deliberation.Run.Program

namespace Deliberation.Run

variable {α : Type} {l m : List (Nat × α)}

theorem inOrder_eq_insertionSort (l : List (Nat × α)) :
    inOrder l = l.insertionSort fun a b => decide (a.1 ≤ b.1) = true :=
  mergeSort_eq_insertionSort key_trans key_total l

theorem inOrder_perm (l : List (Nat × α)) : (inOrder l).Perm l :=
  List.mergeSort_perm _ _

theorem mem_inOrder {x : Nat × α} : x ∈ inOrder l ↔ x ∈ l :=
  (inOrder_perm l).mem_iff

theorem ascending_inOrder (h : (l.map Prod.fst).Nodup) :
    (inOrder l).Pairwise fun a b => a.1 < b.1 :=
  ascending_mergeSort h

theorem inOrder_eq_of_perm (h : l.Perm m) (hl : (l.map Prod.fst).Nodup) :
    inOrder l = inOrder m :=
  mergeSort_eq_of_perm h hl

theorem inOrder_cons (a : Nat × α) (l : List (Nat × α)) :
    ∃ l₁ l₂, inOrder (a :: l) = l₁ ++ a :: l₂ ∧ inOrder l = l₁ ++ l₂ ∧
      (∀ b ∈ l₁, b.1 < a.1) ∧ ∀ b ∈ l₂, a.1 ≤ b.1 :=
  mergeSort_cons_key a l

theorem eq_of_split {n : Nat} {l₁ l₂ m₁ m₂ : List (Nat × α)} (h : l₁ ++ l₂ = m₁ ++ m₂)
    (hl₁ : ∀ b ∈ l₁, b.1 < n) (hl₂ : ∀ b ∈ l₂, n ≤ b.1) (hm₁ : ∀ b ∈ m₁, b.1 < n)
    (hm₂ : ∀ b ∈ m₂, n ≤ b.1) : l₁ = m₁ ∧ l₂ = m₂ := by
  have hfilter {l₁ l₂ : List (Nat × α)} (h₁ : ∀ b ∈ l₁, b.1 < n) (h₂ : ∀ b ∈ l₂, n ≤ b.1) :
      (l₁ ++ l₂).filter (fun b => b.1 < n) = l₁ := by
    have hnone : l₂.filter (fun b => b.1 < n) = [] :=
      List.filter_eq_nil_iff.2 fun b hb => by simpa using h₂ b hb
    rw [List.filter_append, hnone, List.append_nil]
    exact List.filter_eq_self.2 fun b hb => decide_eq_true (h₁ b hb)
  have h₁ : l₁ = m₁ := by rw [← hfilter hl₁ hl₂, h, hfilter hm₁ hm₂]
  subst h₁
  exact ⟨rfl, List.append_cancel_left h⟩

-- By induction on the list: its first entry goes in front of those with an id as great, which the
-- filter does not change.
theorem filter_inOrder (p : Nat × α → Bool) (l : List (Nat × α)) :
    (inOrder l).filter p = inOrder (l.filter p) := by
  induction l with
  | nil => simp [inOrder]
  | cons a l ih =>
    obtain ⟨l₁, l₂, hcons, hrest, hbefore, hafter⟩ := inOrder_cons a l
    rw [hrest, List.filter_append] at ih
    rw [hcons, List.filter_append]
    cases ha : p a with
    | false =>
      rw [List.filter_cons_of_neg (by simp [ha]), List.filter_cons_of_neg (by simp [ha]), ih]
    | true =>
      rw [List.filter_cons_of_pos ha, List.filter_cons_of_pos ha]
      obtain ⟨m₁, m₂, hcons', hrest', hbefore', hafter'⟩ := inOrder_cons a (l.filter p)
      have hkept {l : List (Nat × α)} {b : Nat × α} (hb : b ∈ l.filter p) : b ∈ l :=
        (List.mem_filter.1 hb).1
      obtain ⟨h₁, h₂⟩ := eq_of_split (ih.trans hrest') (fun b hb => hbefore b (hkept hb))
        (fun b hb => hafter b (hkept hb)) hbefore' hafter'
      rw [hcons', h₁, h₂]

end Deliberation.Run
