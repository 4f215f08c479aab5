import Deliberation.Proofs.Reply.Braces
import Deliberation.Proofs.Reply.Passage
import Mathlib.Data.String.Basic

namespace Deliberation.Reply

open Json

structure Span (s p b t : List Char) : Prop where
  text : s = p ++ b ++ t
  first : '\x7b' ∉ p
  opens : ∃ r, b = '\x7b' :: r
  balanced : Balanced b

structure Sliced (s p b : List Char) (start stop : String.Pos.Raw) : Prop where
  start_eq : start.byteIdx = (String.ofList p).utf8ByteSize
  stop_eq : stop.byteIdx =
    start.byteIdx + (String.ofList b.dropLast).utf8ByteSize + ('\x7d').utf8Size
  start_valid : start.IsValid (String.ofList s)
  stop_valid : stop.IsValid (String.ofList s)
  slice : String.Pos.Raw.extract (String.ofList s) start stop = String.ofList b

variable {s p b t r u : List Char}

theorem findObject?_cons (hp : '\x7b' ∉ p) (r : List Char) :
    findObject? (p ++ '\x7b' :: r) = (closing? 1 .code r).map ('\x7b' :: ·) := by
  have hp : ∀ c ∈ p, decide (c ≠ '\x7b') = true := fun c hc =>
    decide_eq_true fun e => hp (e ▸ hc)
  rw [findObject?, List.dropWhile_append_of_pos hp]
  rfl

theorem findObject?_of_not_mem (hs : '\x7b' ∉ s) : findObject? s = none := by
  have hs : s.dropWhile (· ≠ '\x7b') = [] :=
    List.dropWhile_eq_nil_iff.2 fun c hc => decide_eq_true fun e => hs (e ▸ hc)
  rw [findObject?, hs, closing?]

theorem opened_cons (r : List Char) : opened ('\x7b' :: r) = opened r + 1 := by
  simp [opened, bare]

theorem closed_cons (r : List Char) : closed ('\x7b' :: r) = closed r := by
  simp [closed, bare]

theorem Ends.balanced (h : Ends 0 .code r) : Balanced ('\x7b' :: r) := by
  have hn : 0 + 1 + opened r = closed r := h.count
  rw [Balanced, opened_cons, closed_cons]
  omega

theorem Runs.not_balanced (h : Runs 0 .code r) : ¬Balanced ('\x7b' :: r) := by
  obtain ⟨d, hd, -⟩ := h
  have hd : d + closed r = 0 + opened r := hd
  rw [Balanced, opened_cons, closed_cons]
  omega

theorem span_of_findObject? (h : findObject? s = some b) :
    ∃ p t, Span s p b t ∧ b = b.dropLast ++ ['\x7d'] := by
  by_cases hs : '\x7b' ∈ s
  · obtain ⟨p, r, rfl, hp⟩ := List.eq_append_cons_of_mem hs
    rw [findObject?_cons hp] at h
    obtain ⟨e, he, rfl⟩ := Option.map_eq_some_iff.1 h
    obtain ⟨⟨t, rfl⟩, hends⟩ := closing?_eq_some_iff.1 he
    refine ⟨p, t, ⟨by simp, hp, ⟨e, rfl⟩, hends.balanced⟩, ?_⟩
    obtain ⟨a, rfl⟩ := hends.last
    rw [← List.cons_append, List.dropLast_concat]
  · rw [findObject?_of_not_mem hs] at h
    cases h

theorem Span.found (h : Span s p b t) : ∃ e, findObject? s = some e ∧ e <+: b := by
  obtain ⟨rfl, hp, ⟨r, rfl⟩, hb⟩ := h
  obtain hr | ⟨e, he, hends⟩ := runs_or_ends 0 .code r
  · exact absurd hb hr.not_balanced
  · refine ⟨'\x7b' :: e, ?_, (List.prefix_cons_inj _).2 he⟩
    have he : e <+: r ++ t := he.trans (List.prefix_append r t)
    rw [List.append_assoc, List.cons_append, findObject?_cons hp, closing?_eq_some_iff.2 ⟨he, hends⟩]
    rfl

theorem findObject?_eq_some_iff :
    findObject? s = some b ↔
      ∃ p t, Span s p b t ∧ ∀ p' b' t', Span s p' b' t' → b.length ≤ b'.length := by
  constructor
  · intro h
    obtain ⟨p, t, hspan, -⟩ := span_of_findObject? h
    refine ⟨p, t, hspan, fun p' b' t' hspan' => ?_⟩
    obtain ⟨e, he, hprefix⟩ := hspan'.found
    cases he.symm.trans h
    exact hprefix.length_le
  · rintro ⟨p, t, hspan, hmin⟩
    obtain ⟨e, he, hprefix⟩ := hspan.found
    obtain ⟨p', t', hspan', -⟩ := span_of_findObject? he
    rw [he, hprefix.eq_of_length_le (hmin p' e t' hspan')]

theorem findObject?_eq_none_iff : findObject? s = none ↔ ¬∃ p b t, Span s p b t := by
  constructor
  · rintro h ⟨p, b, t, hspan⟩
    obtain ⟨e, he, -⟩ := hspan.found
    cases h.symm.trans he
  · intro h
    cases hs : findObject? s with
    | none => rfl
    | some b =>
      obtain ⟨p, t, hspan, -⟩ := span_of_findObject? hs
      exact absurd ⟨p, b, t, hspan⟩ h

theorem depth_of_scan (hs : s.dropWhile (· ≠ '\x7b') = u ++ r) (hu : u ≠ [])
    (hn : closing? 0 .code u = none) :
    ∃ d, 0 < d ∧ d + closed u = opened u ∧
      findObject? s = (closing? d (u.foldl Place.next .code) r).map (u ++ ·) := by
  obtain ⟨c, v, rfl⟩ := List.exists_cons_of_ne_nil hu
  obtain rfl : c = '\x7b' := by
    have := List.head?_dropWhile_not (fun c => decide (c ≠ '\x7b')) s
    rw [hs] at this
    simpa using this
  -- only the first brace is read at depth zero
  have hn : (closing? 1 .code v).map ('\x7b' :: ·) = none := hn
  obtain ⟨d, hd, hr⟩ | ⟨e, he, hends⟩ := runs_or_ends 0 .code v
  · have hd : d + closed v = 0 + opened v := hd
    refine ⟨d + 1, Nat.succ_pos d, ?_, ?_⟩
    · rw [opened_cons, closed_cons]
      omega
    · have hc : closing? 0 .code ('\x7b' :: (v ++ r)) = (closing? 1 .code (v ++ r)).map ('\x7b' :: ·) := rfl
      rw [findObject?, hs, List.cons_append, hc, hr, Option.map_map]
      rfl
  · rw [closing?_eq_some_iff.2 ⟨he, hends⟩] at hn
    cases hn

theorem Span.sliced (h : Span s p b t) (hb : b = b.dropLast ++ ['\x7d']) :
    ∃ start stop, Sliced s p b start stop := by
  have hlen : (String.ofList b).utf8ByteSize =
      (String.ofList b.dropLast).utf8ByteSize + ('\x7d').utf8Size := by
    conv_lhs => rw [hb, String.ofList_append, String.utf8ByteSize_append]
    rfl
  obtain ⟨rfl, -⟩ := h
  refine ⟨(String.ofList p).rawEndPos, (String.ofList (p ++ b)).rawEndPos, rfl, ?_, ?_, ?_, ?_⟩
  · rw [String.ofList_append, String.byteIdx_rawEndPos, String.utf8ByteSize_append, hlen, Nat.add_assoc]
    rfl
  · exact String.Pos.Raw.isValid_iff_exists_append.2
      ⟨String.ofList p, String.ofList (b ++ t), by rw [← String.ofList_append, List.append_assoc], rfl⟩
  · exact String.Pos.Raw.isValid_iff_exists_append.2
      ⟨String.ofList (p ++ b), String.ofList t, String.ofList_append, rfl⟩
  · have h := String.extract_of_valid p b t
    rwa [← String.utf8Len_append, ← String.utf8ByteSize_ofList, ← String.utf8ByteSize_ofList] at h

theorem findObject?_exact :
    (∀ (p j t : List Char) (fs : List (Option String × Syntax)),
      '\x7b' ∉ p → ObjectText fs j → findObject? (p ++ j ++ t) = some j) ∧
    ∀ s : List Char,
      (∀ b, findObject? s = some b ↔
        ∃ p t, Span s p b t ∧ ∀ p' b' t', Span s p' b' t' → b.length ≤ b'.length) ∧
      (findObject? s = none ↔ ¬∃ p b t, Span s p b t) ∧
      (∀ u r, s.dropWhile (· ≠ '\x7b') = u ++ r → u ≠ [] → closing? 0 .code u = none →
        ∃ d, 0 < d ∧ d + closed u = opened u ∧
          findObject? s = (closing? d (u.foldl Place.next .code) r).map (u ++ ·)) ∧
      (∀ p r, s = p ++ '\x7b' :: r → (String.ofList p).rawEndPos.IsValid (String.ofList s)) ∧
      ∀ b, findObject? s = some b →
        ∃ p t start stop, Span s p b t ∧ Sliced s p b start stop := by
  refine ⟨fun p j t fs hp hj => ?_, fun s => ⟨fun _ => findObject?_eq_some_iff,
    findObject?_eq_none_iff, fun _ _ => depth_of_scan, ?_, fun b hb => ?_⟩⟩
  · rw [List.append_assoc]
    exact findObject?_append hp hj t
  · rintro p r rfl
    exact String.Pos.Raw.isValid_iff_exists_append.2 ⟨_, _, String.ofList_append, rfl⟩
  · obtain ⟨p, t, hspan, hlast⟩ := span_of_findObject? hb
    obtain ⟨start, stop, hsliced⟩ := hspan.sliced hlast
    exact ⟨p, t, start, stop, hspan, hsliced⟩

theorem findObject?_exact_brace_in_key :
    let j := ['\x7b', '"', '\x7d', '\\', '"', '"', ':', '\x7b', ' ', '\x7d', '\x7d']
    ObjectText [(content [125, 34], .object [])] j ∧
      findObject? (['A', ' '] ++ j ++ ['\x7d']) = some j ∧
      (∃ d, 0 < d ∧ d + closed (j.take 8) = opened (j.take 8) ∧
        findObject? j = (closing? d .code (j.drop 8)).map (j.take 8 ++ ·)) ∧
      (String.ofList ['A', ' ']).rawEndPos.IsValid (String.ofList (['A', ' '] ++ j ++ ['\x7d'])) ∧
      ∃ p t start stop, Span j p j t ∧ Sliced j p j start stop := by
  intro j
  have hkey : (Token.string (content [125, 34])).Spelled ['"', '\x7d', '\\', '"', '"'] :=
    .string (s := ['\x7d', '\\', '"'])
      (.cons (.plain (c := '\x7d') (by decide) (by decide) (by decide))
        (.cons (.short (c := '"') (d := '"') rfl) .nil))
  have hempty : ObjectText [] ['\x7b', ' ', '\x7d'] :=
    objectText_iff.2 ⟨[' '], rfl, .blank (spaces_cons.2 ⟨rfl, spaces_nil⟩)⟩
  have hj : ObjectText [(content [125, 34], .object [])] j :=
    objectText_iff.2 ⟨_, rfl,
      .last spaces_nil (.field hkey spaces_nil spaces_nil hempty) spaces_nil⟩
  exact ⟨hj, findObject?_exact.1 _ _ _ _ (by decide) hj,
    (findObject?_exact.2 j).2.2.1 (j.take 8) (j.drop 8) rfl (by decide) rfl,
    (findObject?_exact.2 _).2.2.2.1 _ _ rfl,
    (findObject?_exact.2 j).2.2.2.2 j (by decide)⟩

end Deliberation.Reply
