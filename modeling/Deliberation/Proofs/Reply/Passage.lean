import Deliberation.Proofs.Json.Lexing
import Deliberation.Reply.Object

namespace Deliberation.Reply

open Json

def Passes (place after : Place) (s : List Char) : Prop :=
  ∀ d r, closing? (d + 1) place (s ++ r) = (closing? (d + 1) after r).map (s ++ ·)

variable {place after last : Place} {c : Char} {s t x : List Char}

theorem passes_nil (place : Place) : Passes place place [] := by
  intro d r
  rw [List.nil_append]
  cases closing? (d + 1) place r <;> rfl

theorem Passes.append (hs : Passes place after s) (ht : Passes after last t) :
    Passes place last (s ++ t) := by
  intro d r
  rw [List.append_assoc, hs, ht, Option.map_map]
  congr 1
  funext u
  exact (List.append_assoc s t u).symm

theorem passes_char (ha : place.next c = after) (h : place = .code → c ≠ '\x7b' ∧ c ≠ '\x7d') :
    Passes place after [c] := by
  intro d r
  rw [List.singleton_append, closing?, if_neg fun hc => (h hc.1).1 hc.2,
    if_neg fun hc => (h hc.1).2 hc.2, ha]
  rfl

theorem passes_plain (h : ∀ c ∈ s, c ≠ '"' ∧ c ≠ '\x7b' ∧ c ≠ '\x7d') : Passes .code .code s := by
  induction s with
  | nil => exact passes_nil .code
  | cons c s ih =>
    obtain ⟨⟨hq, hb⟩, hs⟩ := List.forall_mem_cons.1 h
    have hc : Passes .code .code [c] := passes_char (if_neg hq) fun _ => hb
    exact hc.append (ih hs)

theorem passes_braces (h : Passes .code .code s) : Passes .code .code ('\x7b' :: (s ++ ['\x7d'])) := by
  intro d r
  have ho : closing? (d + 1) .code ('\x7b' :: (s ++ '\x7d' :: r)) =
      (closing? (d + 2) .code (s ++ '\x7d' :: r)).map ('\x7b' :: ·) := rfl
  have hc : closing? (d + 2) .code ('\x7d' :: r) =
      (closing? (d + 1) .code r).map ('\x7d' :: ·) := rfl
  have happ : '\x7b' :: (s ++ ['\x7d']) ++ r = '\x7b' :: (s ++ '\x7d' :: r) := by simp
  rw [happ, ho, h (d + 1), hc, Option.map_map, Option.map_map]
  congr 1
  funext u
  simp

theorem passes_spaces (h : Spaces s) : Passes .code .code s := by
  refine passes_plain fun c hc => ⟨?_, ?_, ?_⟩ <;> rintro rfl <;> exact absurd (h _ hc) (by decide)

theorem passes_number {l : Literal} (h : l.Written s) : Passes .code .code s := by
  obtain ⟨c, r, rfl, hc, hr⟩ := h.cons
  have hc : isNumberChar c = true := by
    rcases hc with hc | rfl
    · rw [isNumberChar, hc]
      rfl
    · rfl
  refine passes_plain fun d hd => ?_
  have hd : isNumberChar d = true := by
    obtain rfl | hd := List.mem_cons.1 hd
    · exact hc
    · exact hr d hd
  refine ⟨?_, ?_, ?_⟩ <;> rintro rfl <;> exact absurd hd (by decide)

theorem passes_word {tok : Token} (h : word? s = some tok) : Passes .code .code s := by
  have hs : s.all isWordChar = true := by
    unfold word? at h
    repeat' split at h
    all_goals cases h
    all_goals subst_vars; rfl
  refine passes_plain fun c hc => ?_
  have hc := List.all_eq_true.1 hs c hc
  refine ⟨?_, ?_, ?_⟩ <;> rintro rfl <;> exact absurd hc (by decide)

theorem passes_quoted (h : ∀ c ∈ s, c ≠ '"' ∧ c ≠ '\\') : Passes .quoted .quoted s := by
  induction s with
  | nil => exact passes_nil .quoted
  | cons c s ih =>
    obtain ⟨⟨hq, hb⟩, hs⟩ := List.forall_mem_cons.1 h
    have hn : Place.quoted.next c = .quoted := by rw [Place.next, if_neg hb, if_neg hq]
    have hc : Passes .quoted .quoted [c] := passes_char hn fun h => nomatch h
    exact hc.append (ih hs)

theorem passes_escape (c : Char) : Passes .quoted .quoted ['\\', c] :=
  have ho : Passes .quoted .escaped ['\\'] := passes_char rfl fun h => nomatch h
  have hc : Passes .escaped .quoted [c] := passes_char rfl fun h => nomatch h
  ho.append hc

theorem isSome_hexValue? {ds : List Char} {n m : Nat}
    (h : ds.foldlM (fun n c => (hexValue? c).map (16 * n + ·)) n = some m) :
    ∀ c ∈ ds, (hexValue? c).isSome = true := by
  induction ds generalizing n with
  | nil => exact fun _ h => nomatch h
  | cons c ds ih =>
    obtain ⟨k, hk, h⟩ := Option.bind_eq_some_iff.1 h
    obtain ⟨v, hv, -⟩ := Option.map_eq_some_iff.1 hk
    exact List.forall_mem_cons.2 ⟨Option.isSome_iff_exists.2 ⟨v, hv⟩, ih h⟩

theorem passes_unit {n : Nat} (h : UnitText n x) : Passes .quoted .quoted x := by
  cases h with
  | plain hq hb _ => exact passes_quoted (List.forall_mem_singleton.2 ⟨hq, hb⟩)
  | short => exact passes_escape _
  | hex _ h =>
    refine (passes_escape 'u').append (passes_quoted fun c hc => ⟨?_, ?_⟩) <;> rintro rfl <;>
      exact absurd (isSome_hexValue? h _ hc) (by decide)

theorem passes_units {ns : List Nat} (h : UnitsText ns x) : Passes .quoted .quoted x := by
  induction h with
  | nil => exact passes_nil .quoted
  | cons h _ ih => exact (passes_unit h).append ih

theorem passes_scalar {tok : Token} {v : Syntax} (hv : tok.scalar? = some v) (h : tok.Spelled x) :
    Passes .code .code x := by
  cases h with
  | mark h =>
    unfold mark? at h
    repeat' split at h
    all_goals cases h
    all_goals cases hv
  | word h => exact passes_word h
  | number h => exact passes_number h
  | string h =>
    have ho : Passes .code .quoted ['"'] := passes_char rfl (by decide)
    have hc : Passes .quoted .code ['"'] := passes_char rfl (by decide)
    exact ho.append ((passes_units h).append hc)

theorem passes_phrase {p : Phrase} (h : p.Written s) : Passes .code .code s := by
  have hmark {c : Char} (hc : c ≠ '"' ∧ c ≠ '\x7b' ∧ c ≠ '\x7d') : Passes .code .code [c] :=
    passes_plain (List.forall_mem_singleton.2 hc)
  induction h with
  | scalar hv h => exact passes_scalar hv h
  | array _ ih => exact (hmark (by decide)).append (ih.append (hmark (by decide)))
  | object _ ih => exact passes_braces ih
  | field hk ha hb _ ih =>
    exact (passes_scalar rfl hk).append ((passes_spaces ha).append
      ((hmark (by decide)).append ((passes_spaces hb).append ih)))
  | blank ha => exact passes_spaces ha
  | last ha _ hb ih => exact (passes_spaces ha).append (ih.append (passes_spaces hb))
  | more ha _ hb _ ih ihr =>
    exact (passes_spaces ha).append (ih.append ((passes_spaces hb).append
      ((hmark (by decide)).append ihr)))

theorem closing?_object {fs : List (Option String × Syntax)} (h : ObjectText fs s)
    (r : List Char) : closing? 0 .code (s ++ r) = some s := by
  obtain ⟨body, rfl, hb⟩ := objectText_iff.1 h
  have ho : closing? 0 .code ('\x7b' :: (body ++ '\x7d' :: r)) =
      (closing? 1 .code (body ++ '\x7d' :: r)).map ('\x7b' :: ·) := rfl
  have hc : closing? 1 .code ('\x7d' :: r) = some ['\x7d'] := rfl
  have happ : '\x7b' :: (body ++ ['\x7d']) ++ r = '\x7b' :: (body ++ '\x7d' :: r) := by simp
  rw [happ, ho, passes_phrase hb 0, hc]
  rfl

theorem findObject?_append {fs : List (Option String × Syntax)} {p : List Char}
    (hp : '\x7b' ∉ p) (h : ObjectText fs s) (r : List Char) :
    findObject? (p ++ (s ++ r)) = some s := by
  obtain ⟨body, rfl, -⟩ := objectText_iff.1 h
  have hp : ∀ c ∈ p, decide (c ≠ '\x7b') = true := fun c hc =>
    decide_eq_true fun e => hp (e ▸ hc)
  rw [findObject?, List.dropWhile_append_of_pos hp]
  exact closing?_object h r

end Deliberation.Reply
