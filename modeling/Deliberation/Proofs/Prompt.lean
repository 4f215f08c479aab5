import Deliberation.Prompt

namespace Deliberation.Prompt

theorem getElem?_toList_append {s r : String} {i : Nat} {c : Char} (h : s.toList[i]? = some c) :
    (s ++ r).toList[i]? = some c := by
  obtain ⟨hi, -⟩ := List.getElem?_eq_some_iff.1 h
  rw [String.toList_append, List.getElem?_append_left hi, h]

theorem expansion_ne_evaluation (count : String) : expansion count ≠ evaluation := by
  have hx : (expansion count).toList[4]? = some 'a' := by
    unfold expansion
    simp only [String.append_assoc]
    exact getElem?_toList_append rfl
  have hv : evaluation.toList[4]? = some 'e' := by
    unfold evaluation
    simp only [String.append_assoc]
    exact getElem?_toList_append rfl
  intro h
  rw [h, hv] at hx
  cases hx

theorem debater_ne_judge (name : String) : debater name ≠ judge := by
  have hdebater : (debater name).toList[9]? = some ' ' := by
    unfold debater
    simp only [String.append_assoc]
    exact getElem?_toList_append rfl
  have hjudge : judge.toList[9]? = some 'n' := by
    unfold judge
    simp only [String.append_assoc]
    exact getElem?_toList_append rfl
  intro h
  rw [h, hjudge] at hdebater
  cases hdebater

end Deliberation.Prompt
