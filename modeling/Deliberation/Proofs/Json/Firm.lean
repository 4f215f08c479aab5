import Deliberation.Proofs.Json.Exact
import Deliberation.Text.Blank

namespace Deliberation

namespace Text

structure Firm (s : List Char) : Prop where
  nonempty : s ≠ []
  head : ∀ c ∈ s.head?, isBlank c = false
  last : ∀ c ∈ s.getLast?, isBlank c = false

theorem firm_of_forall {s : List Char} (hn : s ≠ []) (h : ∀ c ∈ s, isBlank c = false) :
    Firm s where
  nonempty := hn
  head := fun c hc => h c (List.mem_of_mem_head? hc)
  last := fun c hc => h c (List.mem_of_mem_getLast? hc)

theorem firm_of_all {s : List Char} (hn : s ≠ []) (h : (s.all fun c => !isBlank c) = true) :
    Firm s :=
  firm_of_forall hn fun c hc => by simpa using List.all_eq_true.1 h c hc

theorem firm_enclosed {a b : Char} (ha : isBlank a = false) (hb : isBlank b = false)
    (s : List Char) : Firm (a :: (s ++ [b])) where
  nonempty := List.cons_ne_nil _ _
  head := by
    rintro c ⟨⟩
    exact ha
  last := by
    intro c hc
    rw [← List.cons_append, List.getLast?_concat] at hc
    cases hc
    exact hb

theorem trimLeft_of_head {s : List Char} (h : ∀ c ∈ s.head?, isBlank c = false) :
    trimLeft s = s := by
  cases s with
  | nil => rfl
  | cons c s => rw [trimLeft, List.dropWhile_cons_of_neg (Bool.eq_false_iff.1 (h c rfl))]

theorem Firm.trim_eq {s : List Char} (h : Firm s) : trim s = s := by
  have hlast : trimLeft s.reverse = s.reverse :=
    trimLeft_of_head (by simpa only [List.head?_reverse] using h.last)
  rw [trim, trimLeft_of_head h.head, trimRight, ← trimLeft, hlast, List.reverse_reverse]

end Text

namespace Json

open Text

theorem not_blank_of_numberChar {c : Char} (h : isNumberChar c = true) : isBlank c = false := by
  simp only [isNumberChar, Bool.or_eq_true, decide_eq_true_eq] at h
  rcases h with ((((h | rfl) | rfl) | rfl) | rfl) | rfl
  · obtain ⟨hl, hu⟩ := digit_bounds h
    simp [isBlank]
    omega
  all_goals decide

theorem not_blank_of_isDigit {c : Char} (h : Number.isDigit c = true) : isBlank c = false :=
  not_blank_of_numberChar (by rw [isNumberChar, h]; rfl)

theorem Literal.Written.firm {l : Literal} {s : List Char} (h : l.Written s) : Firm s := by
  obtain ⟨c, r, rfl, hc, hr⟩ := h.cons
  have hnumber : isNumberChar c = true := by
    rcases hc with hc | rfl
    · rw [isNumberChar, hc]
      rfl
    · rfl
  exact firm_of_forall (List.cons_ne_nil c r) fun d hd =>
    not_blank_of_numberChar ((List.mem_cons.1 hd).elim (fun h => h ▸ hnumber) (hr d))

theorem markOf?_of_scalar? {t : Token} {v : Syntax} (h : t.scalar? = some v) :
    markOf? t = none := by
  cases t <;> cases h <;> rfl

theorem firm_of_scalar {t : Token} {v : Syntax} {s : List Char} (hv : t.scalar? = some v)
    (h : t.Spelled s) : Firm s := by
  cases h with
  | mark h =>
    cases (markOf?_of_scalar? hv).symm.trans (markOf?_of_mark? h)
  | word h =>
    unfold word? at h
    repeat' split at h
    all_goals cases h
    all_goals subst_vars; exact firm_of_all (List.cons_ne_nil _ _) rfl
  | number h => exact h.firm
  | string _ => exact firm_enclosed rfl rfl _

theorem Syntax.Written.firm {v : Syntax} {s : List Char} (h : v.Written s) : Firm s := by
  cases h with
  | scalar hv h => exact firm_of_scalar hv h
  | array _ => exact firm_enclosed rfl rfl _
  | object _ => exact firm_enclosed rfl rfl _

end Json

end Deliberation
