import Deliberation.Proofs.Json.Grammar
import Mathlib.Data.List.TakeDrop
import Mathlib.Data.List.TakeWhile

namespace Deliberation.Json

open Deliberation.Number

def NoDigitHead (s : List Char) : Prop :=
  ∀ c ∈ s.head?, isDigit c = false

theorem splitDigits_append {ds r : List Char} (hd : ∀ c ∈ ds, isDigit c = true)
    (hr : NoDigitHead r) : splitDigits (ds ++ r) = (ds, r) := by
  rw [splitDigits, List.span_eq_takeWhile_dropWhile, List.takeWhile_append_of_pos hd,
    List.dropWhile_append_of_pos hd]
  cases r with
  | nil => simp
  | cons c r => simp [hr c rfl]

theorem splitDigits_eq {s ds r : List Char} (h : splitDigits s = (ds, r)) :
    s = ds ++ r ∧ ∀ c ∈ ds, isDigit c = true := by
  rw [splitDigits, List.span_eq_takeWhile_dropWhile] at h
  cases h
  exact ⟨List.takeWhile_append_dropWhile.symm, fun c hc => List.mem_takeWhile_imp hc⟩

theorem nonempty_eq_some {ds es : List Char} : nonempty ds = some es ↔ ds = es ∧ ds ≠ [] := by
  cases ds with
  | nil => simp [nonempty]
  | cons c ds => simp [nonempty]

theorem noDigitHead_power {power : Option (Bool × List Char)} {e : List Char}
    (h : PowerText power e) : NoDigitHead e := by
  intro c hc
  cases h with
  | none => cases hc
  | unsigned he _ | plus he _ | minus he _ =>
    cases hc
    rcases he with rfl | rfl <;> decide

theorem noDigitHead_part {part : Option (List Char)} {power : Option (Bool × List Char)}
    {p e : List Char} (hp : PartText part p) (he : PowerText power e) : NoDigitHead (p ++ e) := by
  cases hp with
  | none => exact noDigitHead_power he
  | point _ =>
    intro c hc
    cases hc
    decide

theorem readWhole?_eq {s w r : List Char} (h : readWhole? s = some (w, r)) :
    s = w ++ r ∧ WholeText w := by
  unfold readWhole? at h
  split at h
  · cases h
    exact ⟨rfl, .zero⟩
  · next hz =>
    obtain ⟨ds, t, ht⟩ : ∃ ds t, splitDigits s = (ds, t) := ⟨_, _, rfl⟩
    obtain ⟨hs, hd⟩ := splitDigits_eq ht
    rw [ht] at h
    obtain ⟨es, hn, hr⟩ := Option.map_eq_some_iff.1 h
    obtain ⟨rfl, hne⟩ := nonempty_eq_some.1 hn
    cases hr
    refine ⟨hs, ?_⟩
    cases w with
    | nil => exact absurd rfl hne
    | cons c ds =>
      refine .digits ?_ ⟨hne, hd⟩
      rintro rfl
      exact hz _ hs

theorem readWhole?_append {w r : List Char} (h : WholeText w) (hr : NoDigitHead r) :
    readWhole? (w ++ r) = some (w, r) := by
  cases h with
  | zero => rfl
  | @digits c ds hc h =>
    unfold readWhole?
    split
    · next hs =>
      cases hs
      exact absurd rfl hc
    · rw [splitDigits_append h.2 hr]
      exact congrArg (Option.map (·, r)) (nonempty_eq_some.2 ⟨rfl, h.1⟩)

theorem readPart?_eq {s r : List Char} {part : Option (List Char)}
    (h : readPart? s = some (part, r)) : ∃ p, s = p ++ r ∧ PartText part p := by
  unfold readPart? at h
  split at h
  · next s =>
    obtain ⟨ds, t, ht⟩ : ∃ ds t, splitDigits s = (ds, t) := ⟨_, _, rfl⟩
    obtain ⟨hs, hd⟩ := splitDigits_eq ht
    rw [ht] at h
    obtain ⟨es, hn, hr⟩ := Option.map_eq_some_iff.1 h
    obtain ⟨rfl, hne⟩ := nonempty_eq_some.1 hn
    cases hr
    exact ⟨_, congrArg ('.' :: ·) hs, .point ⟨hne, hd⟩⟩
  · cases h
    exact ⟨[], rfl, .none⟩

theorem readPart?_append {part : Option (List Char)} {power : Option (Bool × List Char)}
    {p e : List Char} (hp : PartText part p) (he : PowerText power e) :
    readPart? (p ++ e) = some (part, e) := by
  cases hp with
  | none =>
    cases he with
    | none => rfl
    | unsigned hc _ | plus hc _ | minus hc _ => rcases hc with rfl | rfl <;> rfl
  | @point ds h =>
    rw [List.cons_append, readPart?, splitDigits_append h.2 (noDigitHead_power he)]
    exact congrArg (Option.map fun ds => (some ds, e)) (nonempty_eq_some.2 ⟨rfl, h.1⟩)

theorem digits_of_nonempty {α : Type} {ds : List Char} {f : List Char → α} {x : α}
    (h : (if ds.all isDigit then (nonempty ds).map f else none) = some x) :
    Digits ds ∧ f ds = x := by
  split at h
  · next hd =>
    obtain ⟨es, hn, hx⟩ := Option.map_eq_some_iff.1 h
    obtain ⟨rfl, hne⟩ := nonempty_eq_some.1 hn
    exact ⟨⟨hne, List.all_eq_true.1 hd⟩, hx⟩
  · cases h

theorem nonempty_of_digits {α : Type} {ds : List Char} (h : Digits ds) (f : List Char → α) :
    (if ds.all isDigit then (nonempty ds).map f else none) = some (f ds) := by
  rw [if_pos (List.all_eq_true.2 h.2), nonempty_eq_some.2 ⟨rfl, h.1⟩]
  rfl

theorem readPower?_eq {s : List Char} {power : Option (Bool × List Char)}
    (h : readPower? s = some power) : PowerText power s := by
  unfold readPower? at h
  split at h
  · cases h
    exact .none
  · next e r =>
    split at h
    · next he =>
      dsimp only at h
      split at h
      · obtain ⟨hd, rfl⟩ := digits_of_nonempty h
        exact .plus he hd
      · obtain ⟨hd, rfl⟩ := digits_of_nonempty h
        exact .minus he hd
      · obtain ⟨hd, rfl⟩ := digits_of_nonempty h
        exact .unsigned he hd
    · cases h

theorem readPower?_of_text {s : List Char} {power : Option (Bool × List Char)}
    (h : PowerText power s) : readPower? s = some power := by
  cases h with
  | none => rfl
  | plus he h | minus he h =>
    unfold readPower?
    dsimp only
    rw [if_pos he]
    exact nonempty_of_digits h _
  | unsigned he h =>
    unfold readPower?
    dsimp only
    rw [if_pos he]
    split
    · cases h.2 '+' List.mem_cons_self
    · cases h.2 '-' List.mem_cons_self
    · exact nonempty_of_digits h _

def Literal.readUnsigned? (negative : Bool) (s : List Char) : Option Literal :=
  (readWhole? s).bind fun (whole, r) => (readPart? r).bind fun (part, r) =>
    (readPower? r).bind fun power => some ⟨negative, whole, part, power⟩

theorem Literal.readUnsigned?_eq_some_iff {negative : Bool} {s : List Char} {l : Literal} :
    Literal.readUnsigned? negative s = some l ↔
      ∃ w p e part power, s = w ++ (p ++ e) ∧ WholeText w ∧ PartText part p ∧
        PowerText power e ∧ l = ⟨negative, w, part, power⟩ := by
  constructor
  · intro h
    obtain ⟨⟨w, r⟩, hwhole, h⟩ := Option.bind_eq_some_iff.1 h
    obtain ⟨⟨part, e⟩, hpart, h⟩ := Option.bind_eq_some_iff.1 h
    obtain ⟨power, he, hl⟩ := Option.bind_eq_some_iff.1 h
    cases hl
    obtain ⟨rfl, hw⟩ := readWhole?_eq hwhole
    obtain ⟨p, rfl, hp⟩ := readPart?_eq hpart
    exact ⟨w, p, e, part, power, rfl, hw, hp, readPower?_eq he, rfl⟩
  · rintro ⟨w, p, e, part, power, rfl, hw, hp, he, rfl⟩
    simp only [readUnsigned?, readWhole?_append hw (noDigitHead_part hp he),
      readPart?_append hp he, readPower?_of_text he, Option.bind_some]

theorem Literal.read?_minus (s : List Char) :
    Literal.read? ('-' :: s) = readUnsigned? true s := by
  rfl

theorem Literal.read?_of_not_minus {s : List Char} (h : ∀ r, s ≠ '-' :: r) :
    Literal.read? s = readUnsigned? false s := by
  unfold Literal.read?
  split
  next negative r hr =>
  split at hr
  · exact absurd rfl (h _)
  · cases hr
    rfl

theorem wholeText_head {w r : List Char} (h : WholeText w) (s : List Char) : w ++ s ≠ '-' :: r := by
  cases h with
  | zero => exact fun hs => nomatch hs
  | digits _ hd =>
    intro hs
    cases hs
    cases hd.2 '-' List.mem_cons_self

theorem Literal.read?_eq_some_iff {s : List Char} {l : Literal} :
    Literal.read? s = some l ↔ l.Written s := by
  constructor
  · intro h
    by_cases hs : ∃ r, s = '-' :: r
    · obtain ⟨r, rfl⟩ := hs
      rw [read?_minus] at h
      obtain ⟨w, p, e, part, power, rfl, hw, hp, he, rfl⟩ := readUnsigned?_eq_some_iff.1 h
      exact .negative hw hp he
    · rw [read?_of_not_minus fun r hr => hs ⟨r, hr⟩] at h
      obtain ⟨w, p, e, part, power, rfl, hw, hp, he, rfl⟩ := readUnsigned?_eq_some_iff.1 h
      exact .positive hw hp he
  · intro h
    cases h with
    | positive hw hp he =>
      rw [read?_of_not_minus fun r => wholeText_head hw _]
      exact readUnsigned?_eq_some_iff.2 ⟨_, _, _, _, _, rfl, hw, hp, he, rfl⟩
    | negative hw hp he =>
      rw [read?_minus]
      exact readUnsigned?_eq_some_iff.2 ⟨_, _, _, _, _, rfl, hw, hp, he, rfl⟩

end Deliberation.Json
