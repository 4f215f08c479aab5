import Deliberation.Proofs.Json.Exact

namespace Deliberation.Json

open Deliberation.Number

inductive Holds (m : Number) : Json → Prop
  | number : Holds m (.number m)
  | item {items : List Json} {v : Json} (hv : v ∈ items) (h : Holds m v) : Holds m (.array items)
  | field {fields : List (String × Json)} {f : String × Json} (hf : f ∈ fields)
      (h : Holds m f.2) : Holds m (.object fields)

inductive Sorted : Json → Prop
  | null : Sorted .null
  | bool (b : Bool) : Sorted (.bool b)
  | number (n : Number) : Sorted (.number n)
  | string (s : String) : Sorted (.string s)
  | array {items : List Json} (h : ∀ v ∈ items, Sorted v) : Sorted (.array items)
  | object {fields : List (String × Json)} (hs : fields.Pairwise fun f g => f.1 < g.1)
      (h : ∀ f ∈ fields, Sorted f.2) : Sorted (.object fields)

inductive Nests : Nat → Json → Prop
  | null (n : Nat) : Nests n .null
  | bool (n : Nat) (b : Bool) : Nests n (.bool b)
  | number (n : Nat) (m : Number) : Nests n (.number m)
  | string (n : Nat) (s : String) : Nests n (.string s)
  | array {n : Nat} {items : List Json} (h : ∀ v ∈ items, Nests n v) :
      Nests (n + 1) (.array items)
  | object {n : Nat} {fields : List (String × Json)} (h : ∀ f ∈ fields, Nests n f.2) :
      Nests (n + 1) (.object fields)

def Number.Legible (n : Number) : Prop :=
  (Literal.read? n.render).bind Literal.number? = some n

theorem isDigit_of_char {c : Char} (h : c.isDigit = true) : isDigit c = true := by
  have hc : 48 ≤ c.toNat ∧ c.toNat ≤ 57 := by
    simp only [Char.isDigit, Bool.and_eq_true, decide_eq_true_eq] at h
    exact h
  rw [isDigit, digitValue?, if_pos hc, Option.isSome_some]

theorem isDigit_toDigits (n : Nat) : ∀ c ∈ Nat.toDigits 10 n, isDigit c = true :=
  fun _ hc => isDigit_of_char (Nat.isDigit_of_mem_toDigits (by decide) (by decide) hc)

theorem digits_toDigits (n : Nat) : Digits (Nat.toDigits 10 n) :=
  ⟨Nat.toDigits_ne_nil, isDigit_toDigits n⟩

theorem valueOf_toDigits (n : Nat) : valueOf (Nat.toDigits 10 n) = n := by
  have hfold : ∀ (ds : List Char) (m : Nat), (∀ c ∈ ds, isDigit c = true) →
      ds.foldl (fun n c => 10 * n + (digitValue? c).getD 0) m = Nat.ofDigitChars 10 ds m := by
    intro ds
    induction ds with
    | nil => exact fun _ _ => rfl
    | cons c ds ih =>
      intro m hd
      obtain ⟨hc, hd⟩ := List.forall_mem_cons.1 hd
      have hvalue : (digitValue? c).getD 0 = c.toNat - 48 := by
        simp only [isDigit, digitValue?] at hc ⊢
        split at hc
        · next hin => rw [if_pos hin, Option.getD_some]
        · cases hc
      rw [List.foldl_cons, Nat.ofDigitChars_cons, ih _ hd, hvalue]
      rfl
  rw [valueOf, hfold _ 0 (isDigit_toDigits n), Nat.ofDigitChars_ten_toDigits]

theorem toDigits_head {n : Nat} (h : 0 < n) :
    ∃ c ds, Nat.toDigits 10 n = c :: ds ∧ c ≠ '0' := by
  induction n using Nat.strongRecOn with
  | ind n ih =>
    by_cases hn : n < 10
    · refine ⟨n.digitChar, [], Nat.toDigits_of_lt_base hn, ?_⟩
      rw [ne_eq, Nat.digitChar_eq_zero]
      omega
    · obtain ⟨c, ds, hds, hc⟩ := ih (n / 10) (by omega) (by omega)
      refine ⟨c, ds ++ [(n % 10).digitChar], ?_, hc⟩
      rw [Nat.toDigits_of_base_le (by decide) (by omega), hds, List.cons_append]

theorem wholeText_toDigits (n : Nat) : WholeText (Nat.toDigits 10 n) := by
  rcases Nat.eq_zero_or_pos n with rfl | h
  · exact .zero
  · have hd := digits_toDigits n
    obtain ⟨c, ds, hds, hc⟩ := toDigits_head h
    rw [hds] at hd ⊢
    exact .digits hc hd

theorem number?_toDigits (negative : Bool) (n : Nat) :
    Literal.number? ⟨negative, Nat.toDigits 10 n, none, none⟩ =
      if negative then
        if n ≠ 0 ∧ n ≤ signBound then some (.int (-(n : Int)))
        else (Literal.real? ⟨negative, Nat.toDigits 10 n, none, none⟩).map .real
      else if n < wordBound then some (.int n)
      else (Literal.real? ⟨negative, Nat.toDigits 10 n, none, none⟩).map .real := by
  simp only [Literal.number?, Option.isNone_none, and_self, ↓reduceIte, valueOf_toDigits]

theorem legible_int {n : Int} (hlow : -(signBound : Int) ≤ n) (hhigh : n < wordBound) :
    Number.Legible (.int n) := by
  cases n with
  | ofNat n =>
    have hread : Literal.read? (Nat.toDigits 10 n) =
        some ⟨false, Nat.toDigits 10 n, none, none⟩ := by
      have hw := Literal.Written.positive (wholeText_toDigits n) .none .none
      rw [List.append_nil, List.append_nil] at hw
      exact Literal.read?_eq_some_iff.2 hw
    have hn : n < wordBound := Int.ofNat_lt.1 hhigh
    have htext : Number.render (.int (.ofNat n)) = Nat.toDigits 10 n := Nat.toList_repr
    rw [Number.Legible, htext, hread, Option.bind_some, number?_toDigits, if_neg (by decide),
      if_pos hn]
    rfl
  | negSucc n =>
    have hread : Literal.read? ('-' :: Nat.toDigits 10 (n + 1)) =
        some ⟨true, Nat.toDigits 10 (n + 1), none, none⟩ := by
      have hw := Literal.Written.negative (wholeText_toDigits (n + 1)) .none .none
      rw [List.append_nil, List.append_nil] at hw
      exact Literal.read?_eq_some_iff.2 hw
    have hn : n + 1 ≠ 0 ∧ n + 1 ≤ signBound := by omega
    have htext : Number.render (.int (.negSucc n)) = '-' :: Nat.toDigits 10 (n + 1) := by
      have hrepr : toString (Int.negSucc n) = "-" ++ Nat.repr (n + 1) := rfl
      rw [Number.render, hrepr, String.toList_append, Nat.toList_repr]
      rfl
    rw [Number.Legible, htext, hread, Option.bind_some, number?_toDigits, if_pos rfl, if_pos hn]
    rfl

theorem Number.Legible.spelled {n : Number} (h : n.Legible) :
    (Token.number (some n)).Spelled n.render := by
  obtain ⟨l, hl, hn⟩ := Option.bind_eq_some_iff.1 h
  rw [← hn]
  exact .number (Literal.read?_eq_some_iff.1 hl)

theorem hexValue?_hexDigit {d : Nat} (h : d < 16) : hexValue? (Text.hexDigit d) = some d := by
  have hall : ∀ d < 16, hexValue? (Text.hexDigit d) = some d := by decide
  exact hall d h

theorem hexOf?_hexPadded {width n : Nat} (h : n < Nat.pow 16 width) :
    hexOf? (Text.hexPadded width n) = some n := by
  induction width generalizing n with
  | zero =>
    obtain rfl : n = 0 := Nat.lt_one_iff.1 h
    rfl
  | succ width ih =>
    have hlt : n < 16 * Nat.pow 16 width := (Nat.mul_comm (Nat.pow 16 width) 16) ▸ h
    have hhead : hexOf? (Text.hexPadded width (n / 16)) = some (n / 16) :=
      ih (Nat.div_lt_of_lt_mul hlt)
    have hlast := hexValue?_hexDigit (Nat.mod_lt n (by decide : 0 < 16))
    rw [Text.hexPadded, hexOf?, List.foldlM_append, ← hexOf?, hhead]
    simp only [List.foldlM_cons, List.foldlM_nil, hlast, Option.bind_eq_bind, Option.bind_some,
      Option.map_some, Option.pure_def, Nat.div_add_mod]

theorem unitText_escape (c : Char) : UnitText c.toNat (escape c) := by
  fun_cases escape c with
  | case1 h =>
    subst h
    exact .short rfl
  | case2 _ h =>
    subst h
    exact .short rfl
  | case3 hquote hback hprintable => exact .plain hquote hback hprintable
  | case4 _ _ _ h =>
    subst h
    exact .short rfl
  | case5 _ _ _ _ h =>
    subst h
    exact .short rfl
  | case6 _ _ _ _ _ h =>
    subst h
    exact .short rfl
  | case7 _ _ _ _ _ _ h =>
    rw [h]
    exact .short (d := Char.ofNat 8) rfl
  | case8 _ _ _ _ _ _ _ h =>
    rw [h]
    exact .short (d := Char.ofNat 12) rfl
  | case9 =>
    refine .hex (Text.length_hexPadded 4 c.toNat) (hexOf?_hexPadded ?_)
    change c.toNat < 65536
    omega

theorem unitsText_escape (s : List Char) : UnitsText (s.map Char.toNat) (s.flatMap escape) := by
  induction s with
  | nil => exact .nil
  | cons c s ih =>
    rw [List.map_cons, List.flatMap_cons]
    exact .cons (unitText_escape c) ih

theorem spelled_quote (s : String) : (Token.string (some s)).Spelled (quote s) := by
  have hcontent : content (s.toList.map Char.toNat) = some s := by
    rw [content, joinUnits_chars, Option.map_some, String.ofList_toList]
  rw [← hcontent]
  exact .string (unitsText_escape s.toList)

mutual

theorem written_render (v : Json) (h : ∀ m, v.Holds m → m.Legible) :
    (Syntax.ofJson v).Written v.render := by
  match v with
  | .null | .bool true | .bool false => exact .scalar rfl (.word rfl)
  | .number n => exact .scalar rfl (h n .number).spelled
  | .string s => exact .scalar rfl (spelled_quote s)
  | .array items =>
    exact .array (written_renderItems items fun v hv m hm => h m (.item hv hm))
  | .object fields =>
    exact .object (written_renderFields fields fun f hf m hm => h m (.field hf hm))

theorem written_renderItems (vs : List Json) (h : ∀ v ∈ vs, ∀ m, v.Holds m → m.Legible) :
    Phrase.Written (.series ((Syntax.ofItems vs).map .item)) (renderItems vs) := by
  match vs with
  | [] => exact .blank spaces_nil
  | [v] =>
    have hv := written_render v (h v List.mem_cons_self)
    simpa [Syntax.ofItems, renderItems] using Phrase.Written.last spaces_nil hv spaces_nil
  | v :: w :: vs =>
    have hv := written_render v (h v List.mem_cons_self)
    have hw := written_renderItems (w :: vs) fun u hu => h u (List.mem_cons_of_mem v hu)
    simpa [Syntax.ofItems, renderItems] using Phrase.Written.more spaces_nil hv spaces_nil hw

theorem written_renderFields (fs : List (String × Json))
    (h : ∀ f ∈ fs, ∀ m, f.2.Holds m → m.Legible) :
    Phrase.Written (.series ((Syntax.ofFields fs).map fun f => .field f.1 f.2))
      (renderFields fs) := by
  match fs with
  | [] => exact .blank spaces_nil
  | [(k, v)] =>
    have hv := written_render v (h (k, v) List.mem_cons_self)
    have hf := Phrase.Written.field (spelled_quote k) spaces_nil spaces_nil hv
    simpa [Syntax.ofFields, renderFields] using Phrase.Written.last spaces_nil hf spaces_nil
  | (k, v) :: f :: fs =>
    have hv := written_render v (h (k, v) List.mem_cons_self)
    have hf := Phrase.Written.field (spelled_quote k) spaces_nil spaces_nil hv
    have hr := written_renderFields (f :: fs) fun g hg => h g (List.mem_cons_of_mem _ hg)
    simpa [Syntax.ofFields, renderFields] using
      Phrase.Written.more spaces_nil hf spaces_nil hr

end

end Deliberation.Json
