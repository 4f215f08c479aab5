import Deliberation.Proofs.Json.Document
import Deliberation.Proofs.Number.Order
import Deliberation.Proofs.Reply.Recovery
import Deliberation.Reply.Grade

namespace Deliberation.Reply

open Json

inductive Lenient {α : Type} (reads : Json → α → Prop) : Option Json → Option α → Prop
  | missing : Lenient reads none none
  | null : Lenient reads (some .null) none
  | present {v : Json} {a : α} (h : reads v a) : Lenient reads (some v) (some a)

def NumberOf (v : Json) (x : Float) : Prop :=
  ∃ n, v = .number n ∧ x = n.toFloat

def StringOf (v : Json) (s : String) : Prop :=
  v = .string s

structure Grade.ReadFrom (v : Json) (g : Grade) : Prop where
  passed : v.field? "passed" = some (.bool g.passed) ∨ v.field? "passed" = none ∧ g.passed = false
  score : Lenient NumberOf (v.field? "score") g.score
  feedback : Lenient StringOf (v.field? "feedback") g.feedback

structure Approving (v : Json) : Prop where
  passed : v.field? "passed" = some (.bool true)
  score : ∀ w ∈ v.field? "score", w = .null ∨ ∃ n, w = .number n
  feedback : ∀ w ∈ v.field? "feedback", w = .null ∨ ∃ s, w = .string s

def Approves (text : String) : Prop :=
  ∃ v, object? text.toList = some v ∧ Approving v

variable {α : Type} {reads : Json → α → Prop} {d : Decoder α} {n : Nat} {k : String}
  {fs : List (String × Json)} {s : List Char} {v : Json} {g : Grade} {text : String}

theorem lenient_none_iff {x : Option α} : Lenient reads none x ↔ x = none := by
  constructor
  · rintro ⟨⟩
    rfl
  · rintro rfl
    exact .missing

theorem lenient_null_iff (hnull : ∀ a, ¬reads .null a) {x : Option α} :
    Lenient reads (some .null) x ↔ x = none := by
  constructor
  · intro h
    cases h with
    | null => rfl
    | present h => exact absurd h (hnull _)
  · rintro rfl
    exact .null

theorem lenient_some_iff {w : Json} (hw : w ≠ .null) {x : Option α} :
    Lenient reads (some w) x ↔ ∃ a, reads w a ∧ some a = x := by
  constructor
  · intro h
    cases h with
    | null => exact absurd rfl hw
    | present h => exact ⟨_, h, rfl⟩
  · rintro ⟨a, ha, rfl⟩
    exact .present ha

theorem exists_lenient_iff {o : Option Json} :
    (∃ x, Lenient reads o x) ↔ ∀ w ∈ o, w = .null ∨ ∃ a, reads w a := by
  constructor
  · rintro ⟨x, h⟩ w hw
    by_cases hnull : w = .null
    · exact .inl hnull
    · obtain rfl := Option.mem_def.1 hw
      obtain ⟨a, ha, -⟩ := (lenient_some_iff hnull).1 h
      exact .inr ⟨a, ha⟩
  · intro h
    cases o with
    | none => exact ⟨none, .missing⟩
    | some w =>
      obtain rfl | ⟨a, ha⟩ := h w rfl
      · exact ⟨none, .null⟩
      · exact ⟨some a, .present ha⟩

theorem optional_of_ne_null {w : Json} (hw : w ≠ .null) :
    Decoder.optional d n (Syntax.ofJson w) = (d n (Syntax.ofJson w)).map some := by
  cases w with
  | null => exact absurd rfl hw
  | bool | number | string | array | object => rfl

theorem orElse_eq_some_iff (hnull : ∀ a, ¬reads .null a)
    (hd : ∀ w a, d n (Syntax.ofJson w) = some a ↔ reads w a) {x : Option α} :
    (Members.ofFields n fs).orElse k none (.optional d) = some x ↔
      Lenient reads (fs.lookup k) x := by
  rw [Members.orElse, find?_ofFields]
  cases fs.lookup k with
  | none => rw [lenient_none_iff, Option.map_none, Option.some_inj, eq_comm]
  | some w =>
    rw [Option.map_some]
    by_cases hw : w = .null
    · subst hw
      rw [lenient_null_iff hnull, eq_comm (a := x)]
      exact Option.some_inj
    · rw [lenient_some_iff hw]
      dsimp only [Members.ofFields]
      rw [optional_of_ne_null hw, Option.map_eq_some_iff]
      simp only [hd]

theorem float_eq_some_iff {w : Json} {x : Float} :
    Decoder.float n (Syntax.ofJson w) = some x ↔ NumberOf w x := by
  cases w with
  | number m => simp [Decoder.float, Syntax.ofJson, NumberOf, eq_comm]
  | null | bool | string | array | object => simp [Decoder.float, Syntax.ofJson, NumberOf]

theorem string_eq_some_iff {w : Json} {x : String} :
    Decoder.string n (Syntax.ofJson w) = some x ↔ StringOf w x := by
  cases w with
  | string y => simp [Decoder.string, Syntax.ofJson, StringOf]
  | null | bool | number | array | object => simp [Decoder.string, Syntax.ofJson, StringOf]

theorem passed_eq_some_iff {b : Bool} :
    (Members.ofFields n fs).orElse "passed" false .bool = some b ↔
      fs.lookup "passed" = some (.bool b) ∨ fs.lookup "passed" = none ∧ b = false := by
  rw [Members.orElse, find?_ofFields]
  cases fs.lookup "passed" with
  | none => simp [eq_comm]
  | some w =>
    cases w with
    | bool y => simp [Decoder.bool, Syntax.ofJson]
    | null | string | number | array | object => simp [Decoder.bool, Syntax.ofJson]

theorem decode_eq_some_iff (h : (fs.map Prod.fst).Nodup) :
    Json.decode Grade.decode (.object fs) = some g ↔ g.ReadFrom (.object fs) := by
  have hscore (x : Option Float) :
      (Members.ofFields nesting fs).orElse "score" none (.optional .float) = some x ↔
        Lenient NumberOf (fs.lookup "score") x :=
    orElse_eq_some_iff (fun _ ⟨_, h, _⟩ => nomatch h) fun _ _ => float_eq_some_iff
  have hfeedback (x : Option String) :
      (Members.ofFields nesting fs).orElse "feedback" none (.optional .string) = some x ↔
        Lenient StringOf (fs.lookup "feedback") x :=
    orElse_eq_some_iff (fun _ h => nomatch h) fun _ _ => string_eq_some_iff
  rw [Json.decode, Grade.decode, record, members?_ofJson h, Option.bind_some]
  constructor
  · intro hg
    obtain ⟨passed, hp, hg⟩ := Option.bind_eq_some_iff.1 hg
    obtain ⟨score, hs, hg⟩ := Option.bind_eq_some_iff.1 hg
    obtain ⟨feedback, hf, hg⟩ := Option.bind_eq_some_iff.1 hg
    cases hg
    exact ⟨passed_eq_some_iff.1 hp, (hscore _).1 hs, (hfeedback _).1 hf⟩
  · rintro ⟨hp, hs, hf⟩
    refine Option.bind_eq_some_iff.2 ⟨_, passed_eq_some_iff.2 hp, ?_⟩
    refine Option.bind_eq_some_iff.2 ⟨_, (hscore _).2 hs, ?_⟩
    exact Option.bind_eq_some_iff.2 ⟨_, (hfeedback _).2 hf, rfl⟩

theorem nodup_of_object? (h : object? s = some (.object fs)) : (fs.map Prod.fst).Nodup := by
  obtain ⟨b, -, hread⟩ := read?_of_object? h
  obtain ⟨hsorted, -, -⟩ := readFrom_of_read? hread
  cases hsorted with
  | object hs _ => exact List.pairwise_map.2 (hs.imp fun hlt => hlt.ne)

theorem grade?_eq_some_iff : grade? s = some g ↔ ∃ v, object? s = some v ∧ g.ReadFrom v := by
  rw [grade?, Option.bind_eq_some_iff]
  refine exists_congr fun v => and_congr_right fun hv => ?_
  obtain ⟨fs, rfl⟩ := object?_isObject hv
  exact decode_eq_some_iff (nodup_of_object? hv)

theorem approving_iff : Approving v ↔ ∃ g : Grade, g.ReadFrom v ∧ g.passed = true := by
  have hscore : (∃ x, Lenient NumberOf (v.field? "score") x) ↔
      ∀ w ∈ v.field? "score", w = .null ∨ ∃ n, w = .number n := by
    rw [exists_lenient_iff]
    simp [NumberOf]
  have hfeedback : (∃ x, Lenient StringOf (v.field? "feedback") x) ↔
      ∀ w ∈ v.field? "feedback", w = .null ∨ ∃ s, w = .string s :=
    exists_lenient_iff
  constructor
  · rintro ⟨hp, hs, hf⟩
    obtain ⟨score, hs⟩ := hscore.2 hs
    obtain ⟨feedback, hf⟩ := hfeedback.2 hf
    exact ⟨⟨true, score, feedback⟩, ⟨.inl hp, hs, hf⟩, rfl⟩
  · rintro ⟨⟨_, score, feedback⟩, ⟨hp, hs, hf⟩, rfl⟩
    refine ⟨?_, hscore.1 ⟨score, hs⟩, hfeedback.1 ⟨feedback, hf⟩⟩
    obtain hp | ⟨-, hfalse⟩ := hp
    · exact hp
    · cases hfalse

theorem Grade.validation_eq (g : Grade) :
    g.validation = ⟨g.passed, (g.score.filter Float.isFinite).map Number.clamp,
      g.feedback.filter fun f => !Text.blankString f⟩ := by
  rw [validation]
  cases g.score with
  | none => rfl
  | some x => cases hx : x.isFinite <;> simp [hx, Validation.withScore, Option.filter]

theorem passed_grade_iff : (grade text).passed = true ↔ Approves text := by
  rw [grade]
  constructor
  · intro h
    split at h
    · next g hg =>
      obtain ⟨v, hv, hread⟩ := grade?_eq_some_iff.1 hg
      rw [Grade.validation_eq] at h
      exact ⟨v, hv, approving_iff.2 ⟨g, hread, h⟩⟩
    · cases h
  · rintro ⟨v, hv, happroving⟩
    obtain ⟨g, hread, hpassed⟩ := approving_iff.1 happroving
    rw [grade?_eq_some_iff.2 ⟨v, hv, hread⟩]
    dsimp only
    rw [Grade.validation_eq]
    exact hpassed

theorem inUnit_grade {x : Float} (h : (grade text).score = some x) : Number.InUnit x := by
  rw [grade] at h
  split at h
  · rw [Grade.validation_eq] at h
    obtain ⟨y, hy, rfl⟩ := Option.map_eq_some_iff.1 h
    exact Number.inUnit_clamp (Option.filter_eq_some_iff.1 hy).2
  · cases h

theorem not_blank_grade {f : String} (h : (grade text).feedback = some f) :
    Text.blankString f = false := by
  rw [grade] at h
  split at h
  · rw [Grade.validation_eq] at h
    simpa using (Option.filter_eq_some_iff.1 h).2
  · cases h
    decide

end Deliberation.Reply
