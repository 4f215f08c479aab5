import Deliberation.Proofs.Json.Depth
import Deliberation.Proofs.Json.Exact
import Deliberation.Proofs.Reply.Location

namespace Deliberation.Reply

open Json

theorem read?_of_objectText {fs : List (Option String × Syntax)} {j : List Char}
    (h : ObjectText fs j) : Json.read? j = (Syntax.object fs).toJson? nesting := by
  have hread := read?_of_written spaces_nil h spaces_nil
  rw [List.nil_append, List.append_nil] at hread
  rw [Json.read?, hread]
  rfl

theorem toJson?_object (fs : List (Option String × Syntax)) :
    ((Syntax.object fs).toJson? nesting).bind asObject? = (Syntax.object fs).toJson? nesting := by
  rw [nesting, Syntax.toJson?]
  cases Syntax.fieldsToJson? 126 fs <;> rfl

theorem eq_object_of_toJson? {v : Syntax} {n : Nat} {fields : List (String × Json)}
    (h : v.toJson? n = some (.object fields)) : ∃ fs, v = .object fs := by
  cases v with
  | object fs => exact ⟨fs, rfl⟩
  | null | bool => cases h
  | number x => cases x <;> cases h
  | string x => cases x <;> cases h
  | array items =>
    cases n with
    | zero => cases h
    | succ n =>
      rw [Syntax.toJson?] at h
      obtain ⟨_, _, h⟩ := Option.map_eq_some_iff.1 h
      cases h

theorem objectText_of_readObject? {s : List Char} {v : Json} (h : readObject? s = some v) :
    ∃ fs a j b, s = a ++ (j ++ b) ∧ Spaces a ∧ ObjectText fs j ∧ Spaces b ∧ readObject? j = some v := by
  obtain ⟨w, hw, hv⟩ := Option.bind_eq_some_iff.1 h
  obtain ⟨rfl, fields, rfl⟩ := asObject?_eq_some hv
  obtain ⟨u, hu, hj⟩ := Option.bind_eq_some_iff.1 hw
  obtain ⟨fs, rfl⟩ := eq_object_of_toJson? hj
  obtain ⟨a, j, b, rfl, ha, ht, hb⟩ := Syntax.read?_eq_some_iff.1 hu
  refine ⟨fs, a, j, b, rfl, ha, ht, hb, ?_⟩
  rw [readObject?, read?_of_objectText ht, toJson?_object, hj]

theorem not_brace_of_blank {a : List Char} (ha : Text.allBlank a = true) : '\x7b' ∉ a := by
  intro h
  have hb : Text.isBlank '\x7b' = true := List.all_eq_true.1 ha _ h
  exact absurd hb (by decide)

theorem not_brace_of_spaces {a : List Char} (ha : Spaces a) : '\x7b' ∉ a := by
  intro h
  have hb : isSpace '\x7b' = true := ha _ h
  exact absurd hb (by decide)

variable {s body p j t w : List Char} {fs : List (Option String × Syntax)}

def Guessed (s : List Char) : Prop :=
  ∀ body, extract s = .ok body → ∃ a b, s = a ++ (body ++ b) ∧ '\x7b' ∉ a

theorem object?_of_guessed (h : Guessed s) : object? s = (findObject? s).bind readObject? := by
  rw [object?]
  cases hv : (extract s).toOption.bind readObject? with
  | none => rfl
  | some v =>
    -- no brace stands before the object of the guess, so it is the first one of the text
    obtain ⟨body, hbody, hv⟩ := Option.bind_eq_some_iff.1 hv
    obtain ⟨fs, a, j, b, rfl, ha, hj, -, hread⟩ := objectText_of_readObject? hv
    have hok : extract s = .ok (a ++ (j ++ b)) := by
      cases he : extract s with
      | error e => rw [he] at hbody; cases hbody
      | ok x => rw [he] at hbody; cases hbody; rfl
    obtain ⟨a', b', rfl, ha'⟩ := h _ hok
    have hs : a' ++ (a ++ (j ++ b) ++ b') = (a' ++ a) ++ (j ++ (b ++ b')) := by simp
    have hnot : '\x7b' ∉ a' ++ a := fun hmem =>
      (List.mem_append.1 hmem).elim ha' (not_brace_of_spaces ha)
    rw [hs, findObject?_append hnot hj, Option.bind_some, hread]

theorem object?_of_text (hs : Guessed (p ++ (j ++ t))) (hp : '\x7b' ∉ p) (hj : ObjectText fs j) :
    object? (p ++ (j ++ t)) = Json.read? j := by
  rw [object?_of_guessed hs, findObject?_append hp hj, Option.bind_some, readObject?,
    read?_of_objectText hj, toJson?_object]

theorem guessed_trim (s : List Char) : ∃ a b, s = a ++ (Text.trim s ++ b) ∧ '\x7b' ∉ a := by
  obtain ⟨a, b, h, ha⟩ := Text.trim_eq_append s
  exact ⟨a, b, h, not_brace_of_blank ha⟩

theorem guessed_of_startsJson (h : startsJson (Text.trim s) = true) : Guessed s := by
  intro body hbody
  rw [extract, if_pos h] at hbody
  cases hbody
  exact guessed_trim s

theorem fenced_eq_ok {opened : List Char} {e : Unreadable} (h : fenced opened e = .ok body) :
    ∃ a b, opened = a ++ (body ++ b) ∧ '\x7b' ∉ a := by
  rw [fenced] at h
  split at h
  · cases h
  · cases h
    obtain ⟨a, b, hb, ha⟩ := guessed_trim (Text.before fence opened)
    obtain ⟨r, hr⟩ := Text.before_prefix fence opened
    refine ⟨a, b ++ r, ?_, ha⟩
    conv_lhs => rw [← hr, hb]
    simp

theorem guessed_of_jsonFence {a' b' : List Char} (hb : Text.breakOn? jsonFence s = some (a', b'))
    (ha : '\x7b' ∉ a') : Guessed s := by
  by_cases hs : startsJson (Text.trim s) = true
  · exact guessed_of_startsJson hs
  intro body hbody
  rw [extract, if_neg hs, hb] at hbody
  obtain ⟨a, b, hopened, hnot⟩ := fenced_eq_ok hbody
  obtain ⟨r, hr⟩ := Text.before_prefix jsonFence b'
  refine ⟨a' ++ (jsonFence ++ a), b ++ r, ?_, ?_⟩
  · rw [Text.breakOn?_eq_append hb, ← hr, hopened]
    simp
  · simp only [List.mem_append, not_or]
    exact ⟨ha, by decide, hnot⟩

theorem occursIn_fence_of_jsonFence {a b : List Char}
    (h : Text.breakOn? jsonFence s = some (a, b)) : Text.occursIn fence s = true := by
  have hs : s = a ++ fence ++ (['j', 's', 'o', 'n'] ++ b) := by
    rw [Text.breakOn?_eq_append h, jsonFence, fence]
    simp
  rw [hs]
  exact Text.occursIn_append fence a _

theorem guessed_of_no_fence (h : Text.occursIn fence s = false) : Guessed s := by
  by_cases hs : startsJson (Text.trim s) = true
  · exact guessed_of_startsJson hs
  intro body hbody
  rw [extract, if_neg hs] at hbody
  have hf : Text.breakOn? fence s = none :=
    Option.isNone_iff_eq_none.1 (Option.isSome_eq_false_iff.1 h)
  cases hj : Text.breakOn? jsonFence s with
  | some ab => cases h.symm.trans (occursIn_fence_of_jsonFence hj)
  | none =>
    rw [hj, hf] at hbody
    cases hbody

theorem guessed_of_blank (hw : Text.allBlank w = true) (r : List Char) :
    Guessed (w ++ '\x7b' :: r) := by
  obtain ⟨x, hx⟩ := Text.trim_blank_append (r := r) hw (show Text.isBlank '\x7b' = false by decide)
  exact guessed_of_startsJson (by rw [hx]; rfl)

theorem guessed_of_fenced (hp : '\x7b' ∉ p) (r : List Char) : Guessed (p ++ (jsonFence ++ r)) := by
  obtain ⟨a, b, hb, ha⟩ := Text.breakOn?_append jsonFence p r
  exact guessed_of_jsonFence hb fun h => hp (ha.subset h)

theorem extract_infix (h : extract s = .ok body) : body <:+: s := by
  by_cases hs : startsJson (Text.trim s) = true
  · obtain ⟨a, b, h', -⟩ := guessed_of_startsJson hs body h
    exact ⟨a, b, by rw [List.append_assoc, ← h']⟩
  rw [extract, if_neg hs] at h
  cases hj : Text.breakOn? jsonFence s with
  | some ab =>
    rw [hj] at h
    obtain ⟨a, b, hopened, -⟩ := fenced_eq_ok h
    have hs : s = ab.1 ++ jsonFence ++ ab.2 := Text.breakOn?_eq_append hj
    obtain ⟨r, hr⟩ := Text.before_prefix jsonFence ab.2
    refine ⟨ab.1 ++ jsonFence ++ a, b ++ r, ?_⟩
    rw [hs, ← hr, hopened]
    simp
  | none =>
    rw [hj] at h
    cases hf : Text.breakOn? fence s with
    | some ab =>
      rw [hf] at h
      obtain ⟨a, b, hopened, -⟩ := fenced_eq_ok h
      have hs : s = ab.1 ++ fence ++ ab.2 := Text.breakOn?_eq_append hf
      refine ⟨ab.1 ++ fence ++ a, b, ?_⟩
      rw [hs, hopened]
      simp
    | none =>
      rw [hf] at h
      cases h

theorem read?_of_object? {v : Json} (h : object? s = some v) :
    ∃ b, b <:+: s ∧ Json.read? b = some v := by
  have hread {b : List Char} (h : readObject? b = some v) : Json.read? b = some v := by
    obtain ⟨u, hu, hv⟩ := Option.bind_eq_some_iff.1 h
    rw [hu, (asObject?_eq_some hv).1]
  rw [object?] at h
  cases hg : (extract s).toOption.bind readObject? with
  | some u =>
    rw [hg] at h
    cases h
    cases he : extract s with
    | error e =>
      rw [he] at hg
      cases hg
    | ok body =>
      rw [he] at hg
      exact ⟨body, extract_infix he, hread hg⟩
  | none =>
    rw [hg] at h
    obtain ⟨b, hb, hv⟩ := Option.bind_eq_some_iff.1 h
    obtain ⟨p, t, hspan, -⟩ := span_of_findObject? hb
    exact ⟨b, ⟨p, t, hspan.text.symm⟩, hread hv⟩

theorem object?_recovers :
    (∀ (j : List Char) (fs : List (Option String × Syntax)), ObjectText fs j →
      Json.read? j = (Syntax.object fs).toJson? nesting ∧
      ((Json.read? j).isSome = true ↔
        (Syntax.object fs).depth ≤ 127 ∧ (Syntax.object fs).Definite) ∧
      (∀ p s, '\x7b' ∉ p → Text.occursIn fence (p ++ j ++ s) = false →
        object? (p ++ j ++ s) = Json.read? j) ∧
      (∀ p w₁ w₂ s, '\x7b' ∉ p → Text.allBlank w₁ = true → Text.allBlank w₂ = true →
        object? (p ++ jsonFence ++ w₁ ++ j ++ w₂ ++ fence ++ s) = Json.read? j) ∧
      ∀ w s, Text.allBlank w = true → object? (w ++ j ++ s) = Json.read? j) ∧
    ∀ (s : List Char) (v : Json), object? s = some v →
      (∃ fields, v = .object fields) ∧ ∃ b, b <:+: s ∧ Json.read? b = some v := by
  refine ⟨fun j fs hj => ?_, fun s v h => ⟨object?_isObject h, read?_of_object? h⟩⟩
  refine ⟨read?_of_objectText hj, ?_, fun p s hp hf => ?_, fun p w₁ w₂ s hp hw _ => ?_, fun w s hw => ?_⟩
  · rw [read?_of_objectText hj]
    exact isSome_toJson?_iff _ _
  · rw [List.append_assoc] at hf ⊢
    exact object?_of_text (guessed_of_no_fence hf) hp hj
  · have hs : p ++ jsonFence ++ w₁ ++ j ++ w₂ ++ fence ++ s =
        (p ++ (jsonFence ++ w₁)) ++ (j ++ (w₂ ++ (fence ++ s))) := by simp
    have hg := guessed_of_fenced hp (w₁ ++ (j ++ (w₂ ++ (fence ++ s))))
    rw [hs]
    refine object?_of_text ?_ ?_ hj
    · simpa using hg
    · simp only [List.mem_append, not_or]
      exact ⟨hp, by decide, not_brace_of_blank hw⟩
  · obtain ⟨body, hbody, -⟩ := objectText_iff.1 hj
    have hg : Guessed (w ++ (j ++ s)) := by
      rw [hbody, List.cons_append]
      exact guessed_of_blank hw _
    rw [List.append_assoc]
    exact object?_of_text hg (not_brace_of_blank hw) hj

theorem object?_recovers_fences_in_key :
    let j := ['\x7b', '"', '`', '`', '`', '"', ':', '\x7b', '\x7d', '\x7d']
    ObjectText [] ['\x7b', '\x7d'] ∧ ObjectText [(content [96, 96, 96], .object [])] j ∧
      object? (['A', ' '] ++ ['\x7b', '\x7d'] ++ ['\x7d']) = Json.read? ['\x7b', '\x7d'] ∧
      object? (['A'] ++ jsonFence ++ ['\n'] ++ j ++ ['\n'] ++ fence ++ ['\x7d']) = Json.read? j ∧
      ∃ v, object? (['\n'] ++ j ++ fence) = some v ∧
        (∃ fields, v = .object fields) ∧ ∃ b, b <:+: ['\n'] ++ j ++ fence ∧ Json.read? b = some v := by
  intro j
  have hempty : ObjectText [] ['\x7b', '\x7d'] := objectText_iff.2 ⟨[], rfl, .blank spaces_nil⟩
  have hunit : UnitText 96 ['`'] := .plain (c := '`') (by decide) (by decide) (by decide)
  have hkey : (Token.string (content [96, 96, 96])).Spelled ['"', '`', '`', '`', '"'] :=
    .string (.cons hunit (.cons hunit (.cons hunit .nil)))
  have hj : ObjectText [(content [96, 96, 96], .object [])] j :=
    objectText_iff.2 ⟨_, rfl,
      .last spaces_nil (.field hkey spaces_nil spaces_nil hempty) spaces_nil⟩
  obtain ⟨-, hsome, -, hfenced, hblank⟩ := object?_recovers.1 j _ hj
  obtain ⟨v, hv⟩ := Option.isSome_iff_exists.1
    (hsome.2 ⟨by decide, by simp [Syntax.Definite, FieldsDefinite, content, joinUnits]⟩)
  have hobject : object? (['\n'] ++ j ++ fence) = some v := (hblank _ _ (by decide)).trans hv
  exact ⟨hempty, hj, (object?_recovers.1 _ _ hempty).2.2.1 _ _ (by decide) (by decide),
    hfenced _ _ _ _ (by decide) (by decide) (by decide), v, hobject, object?_recovers.2 _ v hobject⟩

end Deliberation.Reply
