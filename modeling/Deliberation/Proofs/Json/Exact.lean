import Deliberation.Proofs.Json.Lexing

namespace Deliberation.Json

def Element.tokens : Element → List Token
  | .item v => v.tokens
  | .field k v => .string k :: .colon :: v.tokens

def Phrase.tokens : Phrase → List Token
  | .one e => e.tokens
  | .series es => joined (es.map Element.tokens)

theorem tokens_items (vs : List Syntax) :
    (Phrase.series (vs.map .item)).tokens = joined (itemTokens vs) := by
  rw [Phrase.tokens, List.map_map, itemTokens_eq_map]
  rfl

theorem tokens_fields (fs : List (Option String × Syntax)) :
    (Phrase.series (fs.map fun f => .field f.1 f.2)).tokens = joined (fieldTokens fs) := by
  rw [Phrase.tokens, List.map_map, fieldTokens_eq_map]
  rfl

theorem tokens_of_scalar? {t : Token} {v : Syntax} (h : t.scalar? = some v) : v.tokens = [t] := by
  cases t <;> cases h <;> rfl

open Scan in
theorem Phrase.Written.scans {p : Phrase} {s : List Char} (h : p.Written s) : Scans s p.tokens := by
  induction h with
  | scalar hv h =>
    rw [Phrase.tokens, Element.tokens, tokens_of_scalar? hv]
    exact scans_lexeme h
  | array _ ih =>
    rw [tokens_items] at ih
    exact scans_mark scans_nil rfl (scans_mark ih rfl scans_nil)
  | object _ ih =>
    rw [tokens_fields] at ih
    exact scans_mark scans_nil rfl (scans_mark ih rfl scans_nil)
  | field hk ha hb _ ih =>
    rw [← List.append_assoc]
    exact scans_mark (scans_spaces (scans_lexeme hk) ha) rfl (spaces_scans hb ih)
  | blank ha => exact scans_spaces scans_nil ha
  | last ha _ hb ih => exact spaces_scans ha (scans_spaces ih hb)
  | more ha _ hb _ ih ihr =>
    rw [← List.append_assoc (_ : List Char) _ (',' :: _)]
    exact spaces_scans ha (scans_mark (scans_spaces ih hb) rfl ihr)

theorem tokens?_of_scans {s : List Char} {ts : List Token} (h : Scan.Scans s ts) :
    tokens? s = some ts := by
  obtain ⟨st, hs, hr⟩ := h []
  rw [tokens?, Scan.start, hs]
  exact hr.finish.trans (by simp)

theorem read?_of_written {v : Syntax} {a x b : List Char} (ha : Spaces a) (h : v.Written x)
    (hb : Spaces b) : Syntax.read? (a ++ (x ++ b)) = some v := by
  have hs := tokens?_of_scans (Scan.spaces_scans ha (Scan.scans_spaces h.scans hb))
  rw [Syntax.read?, hs]
  exact Syntax.ofTokens?_tokens v

def markOf? : Token → Option Char
  | .openBrace => some '\x7b'
  | .closeBrace => some '\x7d'
  | .openBracket => some '['
  | .closeBracket => some ']'
  | .colon => some ':'
  | .comma => some ','
  | _ => none

theorem markOf?_of_mark? {c : Char} {t : Token} (h : mark? c = some t) : markOf? t = some c := by
  unfold mark? at h
  repeat' split at h
  all_goals cases h
  all_goals subst_vars; rfl

theorem markOf?_of_word? {w : List Char} {t : Token} (h : word? w = some t) : markOf? t = none := by
  unfold word? at h
  repeat' split at h
  all_goals cases h
  all_goals rfl

theorem Token.Spelled.of_mark {c : Char} {t : Token} {x : List Char} (h : t.Spelled x)
    (hc : mark? c = some t) : x = [c] := by
  have ht := markOf?_of_mark? hc
  cases h with
  | mark hd =>
    cases ht.symm.trans (markOf?_of_mark? hd)
    rfl
  | word hw => cases ht.symm.trans (markOf?_of_word? hw)
  | number | string => cases ht

theorem Lexed.enclosed {c d : Char} {t u : Token} {ts : List Token} {s : List Char}
    (ht : mark? c = some t) (hu : mark? d = some u) (h : Lexed (t :: (ts ++ [u])) s) :
    ∃ a x b, s = a ++ (c :: (x ++ [d]) ++ b) ∧ Spaces a ∧ Lexed ts x ∧ Spaces b := by
  cases h with
  | @cons _ _ a y r ha hy hr =>
    obtain ⟨x, z, rfl, hx, hz⟩ := hr.split
    obtain ⟨a', w, b, rfl, ha', hw, hb⟩ := hz.single
    rw [hy.of_mark ht, hw.of_mark hu]
    exact ⟨a, x ++ a', b, by simp, ha, hx.spaces ha', hb⟩

theorem Lexed.separated {us vs : List Token} {s : List Char} (h : Lexed (us ++ .comma :: vs) s) :
    ∃ x r, s = x ++ ',' :: r ∧ Lexed us x ∧ Lexed vs r := by
  obtain ⟨x, y, rfl, hx, hy⟩ := h.split
  cases hy with
  | cons ha ht hr =>
    rw [ht.of_mark (c := ',') rfl]
    exact ⟨x ++ _, _, by simp, hx.spaces ha, hr⟩

theorem written_field {k : Option String} {v : Syntax} {s : List Char}
    (hv : ∀ {s}, Lexed v.tokens s → ∃ a x b, s = a ++ (x ++ b) ∧ Spaces a ∧ v.Written x ∧ Spaces b)
    (h : Lexed (.string k :: .colon :: v.tokens) s) :
    ∃ a x b, s = a ++ (x ++ b) ∧ Spaces a ∧ Phrase.Written (.one (.field k v)) x ∧ Spaces b := by
  cases h with
  | @cons _ _ a n _ ha hn h =>
    cases h with
    | @cons _ _ a' x s ha' hx h =>
      obtain ⟨b, y, c, rfl, hb, hy, hc⟩ := hv h
      rw [hx.of_mark (c := ':') rfl]
      exact ⟨a, _, c, by simp, ha, .field hn ha' hb hy, hc⟩

mutual

theorem written_of_lexed (v : Syntax) {s : List Char} (h : Lexed v.tokens s) :
    ∃ a x b, s = a ++ (x ++ b) ∧ Spaces a ∧ v.Written x ∧ Spaces b := by
  match v with
  | .null | .bool b | .number n | .string s =>
    obtain ⟨a, x, b, rfl, ha, hx, hb⟩ := Lexed.single h
    exact ⟨a, x, b, rfl, ha, .scalar rfl hx, hb⟩
  | .array vs =>
    obtain ⟨a, x, b, rfl, ha, hx, hb⟩ := Lexed.enclosed (c := '[') (d := ']') rfl rfl h
    exact ⟨a, _, b, rfl, ha, .array (written_items vs hx), hb⟩
  | .object fs =>
    obtain ⟨a, x, b, rfl, ha, hx, hb⟩ := Lexed.enclosed (c := '\x7b') (d := '\x7d') rfl rfl h
    exact ⟨a, _, b, rfl, ha, .object (written_fields fs hx), hb⟩

theorem written_items (vs : List Syntax) {s : List Char} (h : Lexed (joined (itemTokens vs)) s) :
    Phrase.Written (.series (vs.map .item)) s := by
  match vs with
  | [] =>
    cases h with
    | nil ha => exact .blank ha
  | [v] =>
    obtain ⟨a, x, b, rfl, ha, hx, hb⟩ := written_of_lexed v h
    exact .last ha hx hb
  | v :: w :: vs =>
    obtain ⟨y, r, rfl, hy, hr⟩ := Lexed.separated h
    obtain ⟨a, x, b, rfl, ha, hx, hb⟩ := written_of_lexed v hy
    have hw := written_items (w :: vs) hr
    simpa using Phrase.Written.more ha hx hb hw

theorem written_fields (fs : List (Option String × Syntax)) {s : List Char}
    (h : Lexed (joined (fieldTokens fs)) s) :
    Phrase.Written (.series (fs.map fun f => .field f.1 f.2)) s := by
  match fs with
  | [] =>
    cases h with
    | nil ha => exact .blank ha
  | [(k, v)] =>
    obtain ⟨a, x, b, rfl, ha, hx, hb⟩ := written_field (written_of_lexed v) h
    exact .last ha hx hb
  | (k, v) :: (k', v') :: fs =>
    obtain ⟨y, r, rfl, hy, hr⟩ := Lexed.separated h
    obtain ⟨a, x, b, rfl, ha, hx, hb⟩ := written_field (written_of_lexed v) hy
    have hw := written_fields ((k', v') :: fs) hr
    simpa using Phrase.Written.more ha hx hb hw

end

theorem Syntax.read?_eq_some_iff {s : List Char} {v : Syntax} :
    Syntax.read? s = some v ↔ ∃ a x b, s = a ++ (x ++ b) ∧ Spaces a ∧ v.Written x ∧ Spaces b := by
  constructor
  · intro h
    obtain ⟨ts, hts, hv⟩ := Option.bind_eq_some_iff.1 h
    rw [ofTokens?_eq_some_iff] at hv
    exact written_of_lexed v (hv ▸ lexed_of_tokens? hts)
  · rintro ⟨a, x, b, rfl, ha, h, hb⟩
    exact read?_of_written ha h hb

end Deliberation.Json
