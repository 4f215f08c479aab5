import Deliberation.Archive.Timestamp
import Deliberation.Proofs.Json.Firm
import Deliberation.Proofs.Json.Printing
import Mathlib.Data.Nat.Digits.Defs

namespace Deliberation.Archive.Timestamp

open Number Text Json

section Fields

variable {c : Char} {r ds : List Char} {n width : Nat}

theorem trimLeft_cons (h : isBlank c = false) (r : List Char) : trimLeft (c :: r) = c :: r := by
  refine trimLeft_of_head ?_
  rintro d ⟨⟩
  exact h

theorem digits_padded (width n : Nat) : Digits (padded width n) := by
  obtain ⟨hne, hd⟩ := digits_toDigits n
  rw [padded, Nat.toList_repr]
  refine ⟨fun h => hne (List.append_eq_nil_iff.1 h).2, fun c hc => ?_⟩
  rcases List.mem_append.1 hc with hc | hc
  · rw [List.eq_of_mem_replicate hc]
    rfl
  · exact hd c hc

theorem valueOf_zeros (k : Nat) (ds : List Char) :
    valueOf (List.replicate k '0' ++ ds) = valueOf ds := by
  induction k with
  | zero => rfl
  | succ k ih => exact ih

theorem valueOf_padded (width n : Nat) : valueOf (padded width n) = n := by
  rw [padded, valueOf_zeros, Nat.toList_repr, valueOf_toDigits]

theorem length_padded (hw : 0 < width) (h : n < 10 ^ width) : (padded width n).length = width := by
  have hle := Nat.toDigits_length 10 n width hw h
  simp only [padded, Nat.toList_repr, List.length_append, List.length_replicate]
  omega

theorem digits?_append {max : Nat} (hd : Digits ds) (hlen : ds.length ≤ max)
    (hc : isDigit c = false) : digits? max (ds ++ c :: r) = some (ds, c :: r) := by
  have htake : ((ds ++ c :: r).take max).takeWhile isDigit = ds := by
    rw [List.take_append, List.take_of_length_le hlen, List.takeWhile_append_of_pos hd.2]
    cases max - ds.length with
    | zero => exact List.append_nil ds
    | succ k =>
      rw [List.take_succ_cons, List.takeWhile_cons, hc]
      exact List.append_nil ds
  rw [digits?, htake, if_neg (mt List.isEmpty_iff.1 hd.1), List.drop_left]

theorem trimLeft_padded (width n : Nat) (r : List Char) :
    trimLeft (padded width n ++ r) = padded width n ++ r := by
  obtain ⟨hne, hd⟩ := digits_padded width n
  obtain ⟨d, ds, hds⟩ := List.exists_cons_of_ne_nil hne
  rw [hds] at hd ⊢
  exact trimLeft_cons (not_blank_of_isDigit (hd d List.mem_cons_self)) (ds ++ r)

theorem part?_padded (hw : 0 < width) (h : n < 10 ^ width) (hc : isDigit c = false) :
    part? width (padded width n ++ c :: r) = some (n, c :: r) := by
  have hread : digits? width (padded width n ++ c :: r) = some (padded width n, c :: r) :=
    digits?_append (digits_padded width n) (length_padded hw h).le hc
  have hvalue := valueOf_padded width n
  rw [part?, trimLeft_padded, hread, Option.map_some]
  dsimp only
  rw [hvalue]

theorem mark?_cons (h : isBlank c = false) : mark? c (c :: r) = some r := by
  rw [mark?, trimLeft_cons h]
  exact if_pos rfl

theorem year?_minus (r : List Char) :
    year? ('-' :: r) = (digits? r.length r).map fun (ds, r) => (-(valueOf ds : Int), r) :=
  rfl

theorem year?_plus (r : List Char) :
    year? ('+' :: r) = (digits? r.length r).map fun (ds, r) => ((valueOf ds : Int), r) :=
  rfl

theorem year?_of_isDigit (h : isDigit c = true) :
    year? (c :: r) = (digits? 4 (c :: r)).map fun (ds, r) => ((valueOf ds : Int), r) := by
  rw [year?, trimLeft_cons (not_blank_of_isDigit h)]
  split
  · next hs =>
    cases hs
    cases h
  · next hs =>
    cases hs
    cases h
  · rfl

theorem year?_renderYear {year : Int} (hc : isDigit c = false) :
    year? (renderYear year ++ c :: r) = some (year, c :: r) := by
  have hd (n : Nat) := digits_padded 4 n
  have hvalue (n : Nat) := valueOf_padded 4 n
  rw [renderYear]
  split
  · next h =>
    have hread : digits? 4 (padded 4 year.toNat ++ c :: r) = some (padded 4 year.toNat, c :: r) :=
      digits?_append (hd _) (length_padded (by decide) (by omega)).le hc
    obtain ⟨d, ds, hds⟩ := List.exists_cons_of_ne_nil (hd year.toNat).1
    have hfirst : isDigit d = true := (hd year.toNat).2 d (hds ▸ List.mem_cons_self)
    have hyear := hvalue year.toNat
    rw [hds, List.cons_append] at hread
    rw [hds] at hyear
    rw [hds, List.cons_append, year?_of_isDigit hfirst, hread, Option.map_some]
    dsimp only
    rw [hyear, Int.toNat_of_nonneg h.1]
  · next h =>
    -- after a sign the digits may go on to the end of the text
    have hread : digits? (padded 4 year.natAbs ++ c :: r).length (padded 4 year.natAbs ++ c :: r) =
        some (padded 4 year.natAbs, c :: r) :=
      digits?_append (hd _) (by simp) hc
    rw [List.cons_append]
    split
    · have hneg : -(year.natAbs : Int) = year := by omega
      rw [year?_minus, hread, Option.map_some]
      dsimp only
      rw [hvalue, hneg]
    · have hpos : (year.natAbs : Int) = year := by omega
      rw [year?_plus, hread, Option.map_some]
      dsimp only
      rw [hvalue, hpos]

theorem fraction?_padded (hw : 0 < width) (h9 : width ≤ 9) (h : n < 10 ^ width)
    (hc : isDigit c = false) :
    fraction? ('.' :: padded width n ++ c :: r) = some (n * 10 ^ (9 - width), c :: r) := by
  have hlen := length_padded hw h
  have hread : digits? 9 (padded width n ++ c :: r) = some (padded width n, c :: r) :=
    digits?_append (digits_padded width n) (by omega) hc
  have hrest : (c :: r).dropWhile isDigit = c :: r := by
    rw [List.dropWhile_cons, hc]
    rfl
  have hvalue := valueOf_padded width n
  rw [List.cons_append, fraction?, hread, Option.map_some]
  dsimp only
  rw [hvalue, hlen, hrest]
  rfl

theorem fraction?_renderFraction {nanos : Nat} (h : nanos < 10 ^ 9) (hc : isDigit c = false)
    (hdot : c ≠ '.') : fraction? (renderFraction nanos ++ c :: r) = some (nanos, c :: r) := by
  rw [renderFraction]
  split
  · next hz =>
    subst hz
    rw [List.nil_append]
    unfold fraction?
    split
    · next hs =>
      cases hs
      exact absurd rfl hdot
    · rfl
  · split
    · rw [fraction?_padded (by decide) (by decide) (by omega) hc]
      congr
      omega
    · split
      · rw [fraction?_padded (by decide) (by decide) (by omega) hc]
        congr
        omega
      · rw [fraction?_padded (by decide) (by decide) (by omega) hc]
        congr
        omega

end Fields

structure Valid (t : Timestamp) : Prop where
  date : t.date.valid = true
  minute : t.minute < 1440
  second : t.second ≤ 60
  nanos : t.nanos < 10 ^ 9

variable {t : Timestamp}

theorem shift_zero (d : Date) {minute : Nat} (h : minute < 1440) :
    shift d minute 0 = (d, minute) := by
  rw [shift, Int.sub_zero, if_neg (by omega), if_neg (by omega), Int.toNat_natCast]

theorem date?_render {d : Date} (h : d.valid = true) {c : Char} (hc : isDigit c = false)
    (r : List Char) :
    date? (renderYear d.year ++ ('-' :: (padded 2 d.month ++ '-' :: (padded 2 d.day ++ c :: r)))) =
      some (d, c :: r) := by
  have hparts := h
  simp only [Date.valid, Bool.and_eq_true, decide_eq_true_eq] at hparts
  have hmonth : d.month < 10 ^ 2 := by omega
  have hday : d.day < 10 ^ 2 := by
    have hdays : Date.daysIn d.year d.month ≤ 31 := by
      rw [Date.daysIn]
      split_ifs <;> decide
    omega
  rw [date?]
  simp only [year?_renderYear (c := '-') (by decide), mark?_cons (c := '-') (by decide),
    part?_padded (c := '-') (by decide : 0 < 2) hmonth (by decide),
    part?_padded (by decide : 0 < 2) hday hc, Option.bind_eq_bind, Option.bind_some, h]
  rfl

theorem read?_render (h : t.Valid) : read? t.render.toList = some t := by
  have hhour : t.minute / 60 < 10 ^ 2 := by
    have := h.minute
    omega
  have hminute : t.minute % 60 < 10 ^ 2 := by omega
  have hsecond : t.second < 10 ^ 2 := by
    have := h.second
    omega
  obtain ⟨c, s, hs, hc⟩ : ∃ c s, renderFraction t.nanos ++ ['Z'] = c :: s ∧ isDigit c = false := by
    rw [renderFraction]
    split_ifs <;> exact ⟨_, _, rfl, by decide⟩
  have htext : t.render.toList = renderYear t.date.year ++ ('-' :: (padded 2 t.date.month ++
      '-' :: (padded 2 t.date.day ++ 'T' :: (padded 2 (t.minute / 60) ++
        ':' :: (padded 2 (t.minute % 60) ++ ':' :: (padded 2 t.second ++ c :: s)))))) := by
    rw [← hs, render, String.toList_ofList]
    simp only [List.append_assoc, List.cons_append]
  have hfraction := fraction?_renderFraction (c := 'Z') (r := []) h.nanos (by decide) (by decide)
  rw [hs] at hfraction
  have hpart {n : Nat} (hn : n < 10 ^ 2) {c : Char} (hc : isDigit c = false) (r : List Char) :
      part? 2 (padded 2 n ++ c :: r) = some (n, c :: r) :=
    part?_padded (by decide) hn hc
  have hcolon (r : List Char) : mark? ':' (':' :: r) = some r := mark?_cons (by decide)
  have hoffset : offset? (trimLeft ['Z']) = some (0, []) := rfl
  have hshift : shift t.date (60 * (t.minute / 60) + t.minute % 60) 0 = (t.date, t.minute) := by
    rw [Nat.div_add_mod, shift_zero _ h.minute]
  have hguard : t.minute / 60 < 24 ∧ t.minute % 60 < 60 ∧ t.second ≤ 60 ∧ allBlank [] = true := by
    have := h.minute
    exact ⟨by omega, by omega, h.second, rfl⟩
  rw [htext, read?, date?_render h.date (by decide)]
  simp only [Option.bind_eq_bind, Option.bind_some, hpart hhour (c := ':') (by decide), hcolon,
    hpart hminute (c := ':') (by decide), hpart hsecond hc, hfraction, hoffset, hshift, h.date,
    if_pos hguard]
  rfl

end Deliberation.Archive.Timestamp
