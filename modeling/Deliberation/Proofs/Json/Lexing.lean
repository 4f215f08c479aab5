import Deliberation.Proofs.Json.Numeral
import Deliberation.Proofs.Json.Reading

namespace Deliberation.Json

inductive Lexed : List Token → List Char → Prop
  | nil {a : List Char} (ha : Spaces a) : Lexed [] a
  | cons {t : Token} {ts : List Token} {a x s : List Char} (ha : Spaces a) (ht : t.Spelled x)
      (hs : Lexed ts s) : Lexed (t :: ts) (a ++ (x ++ s))

namespace Lexed

variable {t : Token} {ts us : List Token} {a s x : List Char}

theorem spaces (h : Lexed ts s) (ha : Spaces a) : Lexed ts (s ++ a) := by
  induction h with
  | nil hb => exact .nil (spaces_append.2 ⟨hb, ha⟩)
  | cons hb ht _ ih =>
    rw [List.append_assoc, List.append_assoc]
    exact .cons hb ht ih

theorem snoc (h : Lexed ts s) (ht : t.Spelled x) : Lexed (ts ++ [t]) (s ++ x) := by
  induction h with
  | nil hb =>
    rw [← List.append_nil x]
    exact .cons hb ht (.nil spaces_nil)
  | cons hb hu _ ih =>
    rw [List.append_assoc, List.append_assoc]
    exact .cons hb hu ih

theorem split (h : Lexed (ts ++ us) s) : ∃ a b, s = a ++ b ∧ Lexed ts a ∧ Lexed us b := by
  induction ts generalizing s with
  | nil => exact ⟨[], s, rfl, .nil spaces_nil, h⟩
  | cons t ts ih =>
    cases h with
    | @cons _ _ c x r hc ht hr =>
      obtain ⟨a, b, rfl, ha, hb⟩ := ih hr
      exact ⟨c ++ (x ++ a), b, by simp, .cons hc ht ha, hb⟩

theorem single (h : Lexed [t] s) : ∃ a x b, s = a ++ (x ++ b) ∧ Spaces a ∧ t.Spelled x ∧ Spaces b := by
  cases h with
  | cons ha ht hr =>
    cases hr with
    | nil hb => exact ⟨_, _, _, rfl, ha, ht, hb⟩

end Lexed

theorem UnitsText.snoc {n : Nat} {us : List Nat} {s x : List Char} (h : UnitsText us s)
    (hx : UnitText n x) : UnitsText (us ++ [n]) (s ++ x) := by
  induction h with
  | nil => simpa using UnitsText.cons hx .nil
  | cons hy _ ih =>
    rw [List.append_assoc]
    exact .cons hy ih

/-! ### What has been scanned is lexemes -/

namespace Scan

def Reads (s : List Char) (st : Scan) : Prop :=
  match st.mode with
  | .between => Lexed st.tokens.reverse s
  | .number read => ∃ a, s = a ++ read.reverse ∧ Lexed st.tokens.reverse a
  | .word read => ∃ a, s = a ++ read.reverse ∧ Lexed st.tokens.reverse a
  | .string units => ∃ a x, s = a ++ '"' :: x ∧ Lexed st.tokens.reverse a ∧ UnitsText units.reverse x
  | .escape units => ∃ a x, s = a ++ '"' :: (x ++ ['\\']) ∧ Lexed st.tokens.reverse a ∧
      UnitsText units.reverse x
  | .hex units value left => ∃ a x ds, s = a ++ '"' :: (x ++ '\\' :: 'u' :: ds) ∧
      Lexed st.tokens.reverse a ∧ UnitsText units.reverse x ∧ hexOf? ds = some value ∧
        ds.length + left = 3

variable {s : List Char} {ts : List Token} {c : Char} {st st' : Scan}

theorem reads_open (h : Lexed ts.reverse s) (hst : Scan.open? ts c = some st) :
    st.Reads (s ++ [c]) := by
  unfold Scan.open? at hst
  split at hst
  · next hc =>
    cases hst
    exact h.spaces (spaces_cons.2 ⟨hc, spaces_nil⟩)
  · split at hst
    · next hc =>
      cases hst
      exact ⟨s, [], by rw [hc], h, .nil⟩
    · split at hst
      · cases hst
        exact ⟨s, rfl, h⟩
      · split at hst
        · cases hst
          exact ⟨s, rfl, h⟩
        · obtain ⟨t, ht, rfl⟩ := Option.map_eq_some_iff.1 hst
          show Lexed (t :: ts).reverse (s ++ [c])
          rw [List.reverse_cons]
          exact h.snoc (.mark ht)

theorem spelled_of_numberToken? {t : Token} (h : numberToken? s = some t) : t.Spelled s := by
  obtain ⟨l, hl, rfl⟩ := Option.map_eq_some_iff.1 h
  exact .number (Literal.read?_eq_some_iff.1 hl)

theorem lexed_lexeme {t : Token} {a x : List Char} (h : Lexed ts.reverse a) (ht : t.Spelled x) :
    Lexed (t :: ts).reverse (a ++ x) := by
  rw [List.reverse_cons]
  exact h.snoc ht

theorem reads_step (h : st.Reads s) (hst : st.step c = some st') : st'.Reads (s ++ [c]) := by
  obtain ⟨mode, ts⟩ := st
  cases mode with
  | between => exact reads_open h hst
  | number read =>
    obtain ⟨a, rfl, ha⟩ := h
    simp only [step] at hst
    split at hst
    · cases hst
      exact ⟨a, by simp, ha⟩
    · obtain ⟨t, ht, hst⟩ := Option.bind_eq_some_iff.1 hst
      exact reads_open (lexed_lexeme ha (spelled_of_numberToken? ht)) hst
  | word read =>
    obtain ⟨a, rfl, ha⟩ := h
    simp only [step] at hst
    split at hst
    · cases hst
      exact ⟨a, by simp, ha⟩
    · obtain ⟨t, ht, hst⟩ := Option.bind_eq_some_iff.1 hst
      exact reads_open (lexed_lexeme ha (.word ht)) hst
  | string units =>
    obtain ⟨a, x, rfl, ha, hx⟩ := h
    simp only [step] at hst
    split at hst
    · next hc =>
      cases hst
      subst hc
      show Lexed (_ :: ts).reverse _
      rw [List.append_assoc]
      exact lexed_lexeme ha (.string hx)
    · next hq =>
      split at hst
      · next hc =>
        cases hst
        exact ⟨a, x, by simp [hc], ha, hx⟩
      · next hb =>
        split at hst
        · cases hst
        · next hc =>
          cases hst
          refine ⟨a, x ++ [c], by simp, ha, ?_⟩
          rw [List.reverse_cons]
          exact hx.snoc (.plain hq hb (Nat.le_of_not_lt hc))
  | escape units =>
    obtain ⟨a, x, rfl, ha, hx⟩ := h
    simp only [step] at hst
    split at hst
    · next hc =>
      cases hst
      exact ⟨a, x, [], by simp [hc], ha, hx, rfl, rfl⟩
    · obtain ⟨d, hd, rfl⟩ := Option.map_eq_some_iff.1 hst
      refine ⟨a, x ++ ['\\', c], by simp, ha, ?_⟩
      rw [List.reverse_cons]
      exact hx.snoc (.short hd)
  | hex units value left =>
    obtain ⟨a, x, ds, rfl, ha, hx, hv, hl⟩ := h
    simp only [step] at hst
    obtain ⟨d, hd, rfl⟩ := Option.map_eq_some_iff.1 hst
    have hv' : hexOf? (ds ++ [c]) = some (16 * value + d) := by
      rw [hexOf?, List.foldlM_append, ← hexOf?, hv]
      simp [hd]
    cases left with
    | zero =>
      refine ⟨a, x ++ '\\' :: 'u' :: (ds ++ [c]), by simp, ha, ?_⟩
      rw [List.reverse_cons]
      exact hx.snoc (.hex (by simpa using hl) hv')
    | succ left => exact ⟨a, x, ds ++ [c], by simp, ha, hx, hv', by simp; omega⟩

theorem reads_foldlM {x : List Char} (h : st.Reads s) (hst : x.foldlM step st = some st') :
    st'.Reads (s ++ x) := by
  induction x generalizing s st with
  | nil =>
    cases hst
    rwa [List.append_nil]
  | cons c x ih =>
    obtain ⟨st₁, h₁, hst⟩ := Option.bind_eq_some_iff.1 hst
    have := ih (reads_step h h₁) hst
    rwa [List.append_assoc] at this

theorem lexed_finish (h : st.Reads s) (hts : st.finish = some ts) : Lexed ts s := by
  obtain ⟨mode, us⟩ := st
  cases mode with
  | between =>
    cases hts
    exact h
  | number read =>
    obtain ⟨a, rfl, ha⟩ := h
    obtain ⟨t, ht, rfl⟩ := Option.map_eq_some_iff.1 hts
    exact lexed_lexeme ha (spelled_of_numberToken? ht)
  | word read =>
    obtain ⟨a, rfl, ha⟩ := h
    obtain ⟨t, ht, rfl⟩ := Option.map_eq_some_iff.1 hts
    exact lexed_lexeme ha (.word ht)
  | string | escape | hex => cases hts

end Scan

theorem lexed_of_tokens? {s : List Char} {ts : List Token} (h : tokens? s = some ts) : Lexed ts s := by
  obtain ⟨st, hst, hts⟩ := Option.bind_eq_some_iff.1 h
  exact Scan.lexed_finish (Scan.reads_foldlM (show Scan.start.Reads [] from .nil spaces_nil) hst) hts

/-! ### Lexemes are scanned -/

theorem digit_bounds {c : Char} (h : Number.isDigit c = true) : 48 ≤ c.toNat ∧ c.toNat ≤ 57 := by
  rw [Number.isDigit, Number.digitValue?] at h
  split at h
  · next hc => exact hc
  · cases h

theorem not_wordChar_of_lt {c : Char} (h : c.toNat < 97) : isWordChar c = false := by
  have ha : ¬ 'a' ≤ c := by
    rw [Char.le_def, UInt32.le_iff_toNat_le]
    exact Nat.not_le.2 h
  rw [isWordChar, decide_eq_false ha, Bool.false_and]

theorem open?_mark {c : Char} {t : Token} (h : mark? c = some t) (ts : List Token) :
    Scan.open? ts c = some ⟨.between, t :: ts⟩ ∧ isNumberChar c = false ∧ isWordChar c = false := by
  unfold mark? at h
  repeat' split at h
  all_goals cases h
  all_goals subst_vars; exact ⟨rfl, rfl, rfl⟩

theorem open?_space {c : Char} (h : isSpace c = true) (ts : List Token) :
    Scan.open? ts c = some ⟨.between, ts⟩ ∧ isNumberChar c = false ∧ isWordChar c = false := by
  simp only [isSpace, Bool.or_eq_true, decide_eq_true_eq] at h
  rcases h with ((rfl | rfl) | rfl) | rfl <;> exact ⟨rfl, rfl, rfl⟩

theorem open?_digit {c : Char} (h : Number.isDigit c = true ∨ c = '-') (ts : List Token) :
    Scan.open? ts c = some ⟨.number [c], ts⟩ := by
  rcases h with h | rfl
  · obtain ⟨hl, hu⟩ := digit_bounds h
    have hne {d : Char} (hd : d.toNat < 48) : c ≠ d := by
      rintro rfl
      omega
    have hs : isSpace c = false := by
      simp [isSpace, hne (d := ' ') (by decide), hne (d := '\t') (by decide),
        hne (d := '\n') (by decide), hne (d := '\r') (by decide)]
    have hn : isNumberChar c = true := by rw [isNumberChar, h]; rfl
    rw [Scan.open?, hs, not_wordChar_of_lt (by omega), hn]
    simp [hne (d := '"') (by decide)]
  · rfl

theorem numberChar_digits {ds : List Char} (h : ∀ c ∈ ds, Number.isDigit c = true) :
    ∀ c ∈ ds, isNumberChar c = true := by
  intro c hc
  rw [isNumberChar, h c hc]
  rfl

theorem numberChar_part {part : Option (List Char)} {p : List Char} (h : PartText part p) :
    ∀ c ∈ p, isNumberChar c = true := by
  cases h with
  | none => exact fun _ h => nomatch h
  | point h => exact List.forall_mem_cons.2 ⟨rfl, numberChar_digits h.2⟩

theorem numberChar_power {power : Option (Bool × List Char)} {e : List Char}
    (h : PowerText power e) : ∀ c ∈ e, isNumberChar c = true := by
  have he {e : Char} (he : e = 'e' ∨ e = 'E') : isNumberChar e = true := by
    rcases he with rfl | rfl <;> rfl
  cases h with
  | none => exact fun _ h => nomatch h
  | unsigned hc h => exact List.forall_mem_cons.2 ⟨he hc, numberChar_digits h.2⟩
  | plus hc h | minus hc h =>
    exact List.forall_mem_cons.2 ⟨he hc, List.forall_mem_cons.2 ⟨rfl, numberChar_digits h.2⟩⟩

theorem wholeText_cons {w : List Char} (h : WholeText w) :
    ∃ c ds, w = c :: ds ∧ Number.isDigit c = true ∧ ∀ c ∈ ds, isNumberChar c = true := by
  cases h with
  | zero => exact ⟨'0', [], rfl, rfl, fun _ h => nomatch h⟩
  | digits _ h =>
    obtain ⟨hc, hd⟩ := List.forall_mem_cons.1 h.2
    exact ⟨_, _, rfl, hc, numberChar_digits hd⟩

theorem Literal.Written.cons {l : Literal} {s : List Char} (h : l.Written s) :
    ∃ c r, s = c :: r ∧ (Number.isDigit c = true ∨ c = '-') ∧ ∀ x ∈ r, isNumberChar x = true := by
  cases h with
  | positive hw hp he =>
    obtain ⟨c, ds, rfl, hc, hd⟩ := wholeText_cons hw
    exact ⟨c, _, rfl, .inl hc, List.forall_mem_append.2
      ⟨hd, List.forall_mem_append.2 ⟨numberChar_part hp, numberChar_power he⟩⟩⟩
  | negative hw hp he =>
    obtain ⟨c, ds, rfl, hc, hd⟩ := wholeText_cons hw
    refine ⟨'-', _, rfl, .inr rfl, List.forall_mem_append.2 ⟨?_, List.forall_mem_append.2
      ⟨numberChar_part hp, numberChar_power he⟩⟩⟩
    refine List.forall_mem_cons.2 ⟨?_, hd⟩
    rw [isNumberChar, hc]
    rfl

namespace Scan

structure Rests (ts : List Token) (st : Scan) : Prop where
  finish : st.finish = some ts.reverse
  step : ∀ c, isNumberChar c = false → isWordChar c = false → st.step c = Scan.open? ts c

def Scans (s : List Char) (us : List Token) : Prop :=
  ∀ ts, ∃ st, s.foldlM step ⟨.between, ts⟩ = some st ∧ st.Rests (us.reverse ++ ts)

theorem scans_nil : Scans [] [] :=
  fun _ => ⟨_, rfl, ⟨rfl, fun _ _ _ => rfl⟩⟩

variable {s r a x : List Char} {us vs ts : List Token} {t : Token} {c : Char} {st : Scan}

theorem scans_spaces (h : Scans s us) (ha : Spaces a) : Scans (s ++ a) us := by
  intro ts
  obtain ⟨st, hs, hr⟩ := h ts
  rw [foldlM_append_of_eq hs]
  clear hs
  induction a generalizing st with
  | nil => exact ⟨st, rfl, hr⟩
  | cons c a ih =>
    obtain ⟨hc, ha⟩ := spaces_cons.1 ha
    obtain ⟨ho, hn, hw⟩ := open?_space hc (us.reverse ++ ts)
    rw [foldlM_cons_of_eq ((hr.step c hn hw).trans ho)]
    exact ih ha _ ⟨rfl, fun _ _ _ => rfl⟩

theorem foldlM_spaces (ha : Spaces a) (ts : List Token) :
    a.foldlM step ⟨.between, ts⟩ = some ⟨.between, ts⟩ := by
  induction a with
  | nil => rfl
  | cons c a ih =>
    obtain ⟨hc, ha⟩ := spaces_cons.1 ha
    have hs : step ⟨.between, ts⟩ c = some ⟨.between, ts⟩ := (open?_space hc ts).1
    rw [foldlM_cons_of_eq hs]
    exact ih ha

theorem spaces_scans (ha : Spaces a) (h : Scans s us) : Scans (a ++ s) us := by
  intro ts
  rw [foldlM_append_of_eq (foldlM_spaces ha ts)]
  exact h ts

theorem scans_mark (h : Scans s us) (hc : mark? c = some t) (hr : Scans r vs) :
    Scans (s ++ c :: r) (us ++ t :: vs) := by
  intro ts
  obtain ⟨st, hs, hst⟩ := h ts
  obtain ⟨ho, hn, hw⟩ := open?_mark hc (us.reverse ++ ts)
  rw [foldlM_append_of_eq hs, foldlM_cons_of_eq ((hst.step c hn hw).trans ho)]
  simpa using hr (t :: (us.reverse ++ ts))

theorem foldlM_number (h : ∀ c ∈ s, isNumberChar c = true) (read : List Char) (ts : List Token) :
    s.foldlM step ⟨.number read, ts⟩ = some ⟨.number (s.reverse ++ read), ts⟩ := by
  induction s generalizing read with
  | nil => rfl
  | cons c s ih =>
    obtain ⟨hc, hs⟩ := List.forall_mem_cons.1 h
    have hstep : step ⟨.number read, ts⟩ c = some ⟨.number (c :: read), ts⟩ := by
      simp only [step, if_pos hc]
    rw [foldlM_cons_of_eq hstep, ih hs]
    simp

theorem foldlM_hex {ds : List Char} {n value left : Nat} (hl : ds.length = left + 1)
    (h : ds.foldlM (fun n c => (hexValue? c).map (16 * n + ·)) value = some n)
    (us : List Nat) (ts : List Token) :
    ds.foldlM step ⟨.hex us value left, ts⟩ = some ⟨.string (n :: us), ts⟩ := by
  induction ds generalizing value left with
  | nil => cases hl
  | cons c ds ih =>
    obtain ⟨m, hm, h⟩ := Option.bind_eq_some_iff.1 h
    obtain ⟨d, hd, rfl⟩ := Option.map_eq_some_iff.1 hm
    cases left with
    | zero =>
      obtain rfl : ds = [] := List.eq_nil_of_length_eq_zero (by simpa using hl)
      cases h
      rw [foldlM_singleton]
      simp only [step, hd, Option.map_some]
    | succ left =>
      have hstep : step ⟨.hex us value (left + 1), ts⟩ c =
          some ⟨.hex us (16 * value + d) left, ts⟩ := by
        simp only [step, hd, Option.map_some]
      rw [foldlM_cons_of_eq hstep]
      exact ih (by simpa using hl) h

theorem foldlM_unit {n : Nat} (h : UnitText n x) (us : List Nat) (ts : List Token) :
    x.foldlM step ⟨.string us, ts⟩ = some ⟨.string (n :: us), ts⟩ := by
  cases h with
  | plain hq hb hc =>
    rw [foldlM_singleton]
    simp only [step, if_neg hq, if_neg hb, if_neg (Nat.not_lt.2 hc)]
  | @short c d h =>
    have hu : c ≠ 'u' := by
      rintro rfl
      cases h
    have hb : step ⟨.string us, ts⟩ '\\' = some ⟨.escape us, ts⟩ := rfl
    rw [foldlM_cons_of_eq hb, foldlM_singleton]
    simp only [step, if_neg hu, h, Option.map_some]
  | hex hl h =>
    have hb : step ⟨.string us, ts⟩ '\\' = some ⟨.escape us, ts⟩ := rfl
    have hu : step ⟨.escape us, ts⟩ 'u' = some ⟨.hex us 0 3, ts⟩ := rfl
    rw [foldlM_cons_of_eq hb, foldlM_cons_of_eq hu]
    exact foldlM_hex hl h us ts

theorem foldlM_units {ns : List Nat} (h : UnitsText ns x) (us : List Nat) (ts : List Token) :
    x.foldlM step ⟨.string us, ts⟩ = some ⟨.string (ns.reverse ++ us), ts⟩ := by
  induction h generalizing us with
  | nil => rfl
  | cons h _ ih =>
    rw [foldlM_append_of_eq (foldlM_unit h us ts), ih]
    simp

theorem scans_lexeme (h : t.Spelled x) : Scans x [t] := by
  intro ts
  cases h with
  | mark hc => exact scans_mark scans_nil hc scans_nil ts
  | word hw =>
    unfold word? at hw
    repeat' split at hw
    all_goals cases hw
    all_goals
      subst_vars
      exact ⟨_, rfl, rfl, fun c _ hw => by simp only [step, hw]; rfl⟩
  | @number l _ h =>
    obtain ⟨c, r, rfl, hc, hr⟩ := h.cons
    have ho : step ⟨.between, ts⟩ c = some ⟨.number [c], ts⟩ := open?_digit hc ts
    have hl : numberToken? (r.reverse ++ [c]).reverse = some (.number l.number?) := by
      rw [List.reverse_append, List.reverse_reverse]
      exact congrArg (Option.map _) (Literal.read?_eq_some_iff.2 h)
    rw [foldlM_cons_of_eq ho, foldlM_number hr]
    refine ⟨_, rfl, ?_, fun c hn _ => ?_⟩
    · exact congrArg (Option.map fun t => (t :: ts).reverse) hl
    · simp only [step, hn, hl]
      rfl
  | string h =>
    have hq : step ⟨.between, ts⟩ '"' = some ⟨.string [], ts⟩ := rfl
    rw [foldlM_cons_of_eq hq, foldlM_append_of_eq (foldlM_units h [] ts), foldlM_singleton]
    refine ⟨_, rfl, ?_⟩
    rw [List.append_nil, List.reverse_reverse]
    exact ⟨rfl, fun _ _ _ => rfl⟩

end Scan

end Deliberation.Json
