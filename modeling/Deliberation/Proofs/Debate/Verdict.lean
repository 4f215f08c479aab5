import Deliberation.Debate.Verdict
import Deliberation.Proofs.Json.Roundtrip
import Deliberation.Proofs.Number.Status
import Deliberation.Proofs.Reply.Recovery

namespace Deliberation.Debate.Verdict

open Json Reply

variable {s : String} {p j t : List Char} {fs : List (Option String × Syntax)} {v : Verdict}
  {x : Json}

structure ReadFrom (x : Json) (v : Verdict) : Prop where
  selectedApproach : v.selectedApproach = match x.field? "selectedApproach" with
    | some (.string a) => a
    | _ => "No approach selected"
  synthesizedInsights : v.synthesizedInsights = match x.field? "synthesizedInsights" with
    | some (.string a) => a
    | _ => "No insights available"
  confidence : v.confidence = match x.field? "confidence" with
    | some (.number n) => Number.clamp n.toFloat
    | _ => 0.5
  inUnit : Number.InUnit v.confidence

structure Embeds (s : List Char) (p j t : List Char) (fs : List (Option String × Syntax)) :
    Prop where
  text : s = p ++ j ++ t
  first : '\x7b' ∉ p
  object : ObjectText fs j
  depth : (Syntax.object fs).depth ≤ 127
  definite : (Syntax.object fs).Definite

theorem parse?_append (hp : '\x7b' ∉ p) (hj : ObjectText fs j) (hs : s.toList = p ++ j ++ t) :
    parse? s = (Json.read? j).map ofObject := by
  rw [parse?, hs, List.append_assoc, findObject?_append hp hj, Option.bind_some, readObject?,
    read?_of_objectText hj, toJson?_object]

theorem Embeds.isSome (h : Embeds s.toList p j t fs) : (parse? s).isSome = true := by
  rw [parse?_append h.first h.object h.text, Option.isSome_map, read?_of_objectText h.object]
  exact (isSome_toJson?_iff _ _).2 ⟨h.depth, h.definite⟩

theorem embeds_of_parse? (h : parse? s = some v) :
    ∃ p j t fs x, Embeds s.toList p j t fs ∧ Json.read? j = some x ∧ v = ofObject x := by
  obtain ⟨x, hx, rfl⟩ := Option.map_eq_some_iff.1 h
  obtain ⟨b, hb, hx⟩ := Option.bind_eq_some_iff.1 hx
  obtain ⟨p, t, ⟨hs, hp, -, -⟩, -⟩ := span_of_findObject? hb
  obtain ⟨fs, a, j, c, rfl, ha, hj, -, hread⟩ := objectText_of_readObject? hx
  have hread : Json.read? j = some x := by
    obtain ⟨y, hy, hx⟩ := Option.bind_eq_some_iff.1 hread
    rw [hy, (asObject?_eq_some hx).1]
  have hsome : ((Syntax.object fs).toJson? nesting).isSome = true := by
    rw [← read?_of_objectText hj, hread]
    rfl
  obtain ⟨hdepth, hdefinite⟩ := (isSome_toJson?_iff _ _).1 hsome
  refine ⟨p ++ a, j, c ++ t, fs, x, ⟨?_, ?_, hj, hdepth, hdefinite⟩, hread, rfl⟩
  · rw [hs]
    simp
  · exact fun hmem => (List.mem_append.1 hmem).elim hp (not_brace_of_spaces ha)

theorem isSome_parse?_iff :
    (parse? s).isSome = true ↔ ∃ p j t fs, Embeds s.toList p j t fs := by
  constructor
  · intro h
    obtain ⟨v, hv⟩ := Option.isSome_iff_exists.1 h
    obtain ⟨p, j, t, fs, -, h, -⟩ := embeds_of_parse? hv
    exact ⟨p, j, t, fs, h⟩
  · rintro ⟨p, j, t, fs, h⟩
    exact h.isSome

theorem holds_of_field? {k : String} {n : Json.Number} (h : x.field? k = some (.number n)) :
    x.Holds n := by
  cases x with
  | object fields =>
    obtain ⟨l₁, l₂, hfields, -⟩ := List.lookup_eq_some_iff.1 h
    exact .field (f := (k, .number n)) (by rw [hfields]; simp) .number
  | null | bool | number | string | array => cases h

theorem readFrom_ofObject (h : Json.read? j = some x) : ReadFrom x (ofObject x) where
  selectedApproach := by
    rw [ofObject]
    cases x.field? "selectedApproach" with
    | none => rfl
    | some y => cases y <;> rfl
  synthesizedInsights := by
    rw [ofObject]
    cases x.field? "synthesizedInsights" with
    | none => rfl
    | some y => cases y <;> rfl
  confidence := by
    rw [ofObject]
    cases x.field? "confidence" with
    | none => rfl
    | some y => cases y <;> rfl
  inUnit := by
    rw [ofObject]
    cases hy : x.field? "confidence" with
    | none => exact Number.inUnit_half
    | some y =>
      cases y with
      | number n =>
        obtain ⟨l, hl⟩ := literal_of_read? h (holds_of_field? hy)
        exact Number.inUnit_clamp_of_isNaN (isNaN_number? hl)
      | null | bool | string | array | object => exact Number.inUnit_half

theorem inUnit_of_parse? (h : parse? s = some v) : Number.InUnit v.confidence := by
  obtain ⟨p, j, t, fs, x, -, hread, rfl⟩ := embeds_of_parse? h
  exact (readFrom_ofObject hread).inUnit

end Deliberation.Debate.Verdict
