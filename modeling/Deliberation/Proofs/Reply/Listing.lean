import Deliberation.Proofs.Json.Firm
import Deliberation.Proofs.Json.Roundtrip
import Deliberation.Proofs.Reply.Recovery
import Deliberation.Reply.Candidates

namespace Deliberation.Reply

open Json

inductive Inside : List Char → Prop
  | last : Inside ['"', ']']
  | next {s : List Char} (h : Inside s) : Inside ('"' :: ',' :: '"' :: s)
  | unit {n : Nat} {x s : List Char} (hx : UnitText n x) (h : Inside s) : Inside (x ++ s)

variable {n : Nat} {c : Char} {ts : List Token} {st st' : Scan} {p s x : List Char}

theorem Inside.units {ns : List Nat} (hx : UnitsText ns x) (h : Inside s) : Inside (x ++ s) := by
  induction hx with
  | nil => exact h
  | cons hx _ ih =>
    rw [List.append_assoc]
    exact .unit hx ih

theorem inside_items (x : String) (xs : List String) :
    ∃ s, renderItems ((x :: xs).map .string) ++ [']'] = '"' :: s ∧ Inside s := by
  induction xs generalizing x with
  | nil =>
    refine ⟨x.toList.flatMap escape ++ ['"', ']'], ?_, .units (unitsText_escape _) .last⟩
    simp [renderItems, render, quote]
  | cons y ys ih =>
    obtain ⟨s, hs, h⟩ := ih y
    refine ⟨x.toList.flatMap escape ++ '"' :: ',' :: '"' :: s, ?_,
      .units (unitsText_escape _) (.next h)⟩
    rw [← hs]
    simp [renderItems, render, quote]

theorem unitText_cases (h : UnitText n x) :
    (∃ c, x = [c] ∧ c ≠ '"' ∧ c ≠ '\\') ∨ ∃ t, x = '\\' :: t ∧ '\x7b' ∉ t := by
  cases h with
  | plain hq hb _ => exact .inl ⟨_, rfl, hq, hb⟩
  | @short c d h =>
    refine .inr ⟨_, rfl, fun hc => ?_⟩
    obtain rfl := List.mem_singleton.1 hc
    cases h
  | hex _ h =>
    refine .inr ⟨_, rfl, fun hc => ?_⟩
    obtain hc | hc := List.mem_cons.1 hc
    · exact absurd hc (by decide)
    · exact absurd (isSome_hexValue? h _ hc) (by decide)

theorem Inside.after_brace (h : Inside (p ++ '\x7b' :: s)) : Inside s := by
  generalize hu : p ++ '\x7b' :: s = u at h
  induction h generalizing p with
  | last =>
    have hmem : '\x7b' ∈ ['"', ']'] := by rw [← hu]; simp
    exact absurd hmem (by decide)
  | next _ ih =>
    match p, hu with
    | [], hu | [_], hu | [_, _], hu => simp at hu
    | _ :: _ :: _ :: _, hu =>
      simp only [List.cons_append, List.cons.injEq] at hu
      exact ih hu.2.2.2
  | @unit n x r hx h ih =>
    obtain ⟨a, rfl, hr⟩ | ⟨b, rfl, hr⟩ := List.append_eq_append_iff.1 hu
    · cases a with
      | nil => exact ih (p := []) hr
      | cons d a =>
        obtain ⟨rfl, rfl⟩ := List.cons.inj hr
        obtain ⟨c, hc, -⟩ | ⟨t, ht, hbrace⟩ := unitText_cases hx
        · obtain ⟨rfl, hc⟩ | ⟨rfl, hc⟩ := List.append_eq_singleton_iff.1 hc
          · obtain rfl := (List.cons.inj hc).2
            exact h
          · cases hc
        · have hmem : '\x7b' ∈ '\\' :: t := by rw [← ht]; simp
          exact absurd hmem (by simp [hbrace])
    · exact ih hr.symm

def Separators (ts : List Token) : Prop :=
  ∀ s, .string s ∈ ts → s = some ","

def Outside (st : Scan) : Prop :=
  match st.mode with
  | .between | .number _ | .word _ => Separators st.tokens
  | _ => False

theorem Outside.separators (h : Outside st) : Separators st.tokens := by
  obtain ⟨mode, ts⟩ := st
  cases mode with
  | between | number _ | word _ => exact h
  | string _ | escape _ | hex _ _ _ => cases h

theorem separators_cons {t : Token} (ht : ∀ s, t ≠ .string s) (h : Separators ts) :
    Separators (t :: ts) := by
  intro s hs
  obtain rfl | hs := List.mem_cons.1 hs
  · exact absurd rfl (ht s)
  · exact h s hs

theorem outside_open (h : Separators ts) (hc : c ≠ '"') (hst : Scan.open? ts c = some st) :
    Outside st := by
  unfold Scan.open? at hst
  split at hst
  · cases hst
    exact h
  · split at hst
    · cases hst
      exact h
    · split at hst
      · cases hst
        exact h
      · obtain ⟨t, ht, rfl⟩ := Option.map_eq_some_iff.1 hst
        refine separators_cons (fun s hs => ?_) h
        subst hs
        cases markOf?_of_mark? ht

theorem word?_ne_string {w : List Char} {t : Token} (h : word? w = some t) (s : Option String) :
    t ≠ .string s := by
  rintro rfl
  unfold word? at h
  repeat' split at h
  all_goals cases h

theorem step_outside (h : Outside st) (hst : st.step c = some st') :
    (Outside st' ∧ (isNumberChar c = true ∨ isWordChar c = true)) ∨
      ∃ ts, Separators ts ∧ Scan.open? ts c = some st' := by
  obtain ⟨mode, ts⟩ := st
  cases mode with
  | between => exact .inr ⟨ts, h, hst⟩
  | number read =>
    simp only [Scan.step] at hst
    split at hst
    · next hc =>
      cases hst
      exact .inl ⟨h, .inl hc⟩
    · obtain ⟨t, ht, hst⟩ := Option.bind_eq_some_iff.1 hst
      obtain ⟨l, -, rfl⟩ := Option.map_eq_some_iff.1 ht
      exact .inr ⟨_, separators_cons (by rintro _ ⟨⟩) h, hst⟩
  | word read =>
    simp only [Scan.step] at hst
    split at hst
    · next hc =>
      cases hst
      exact .inl ⟨h, .inr hc⟩
    · obtain ⟨t, ht, hst⟩ := Option.bind_eq_some_iff.1 hst
      exact .inr ⟨_, separators_cons (word?_ne_string ht) h, hst⟩
  | string _ | escape _ | hex _ _ _ => cases h

theorem not_step_backslash (h : Outside st) : st.step '\\' = none := by
  cases hst : st.step '\\' with
  | none => rfl
  | some st' =>
    obtain ⟨-, hc⟩ | ⟨ts, -, hopen⟩ := step_outside h hst
    · exact absurd hc (by decide)
    · cases hopen

theorem step_quote (h : Outside st) (hst : st.step '"' = some st') :
    ∃ ts, Separators ts ∧ st' = ⟨.string [], ts⟩ := by
  obtain ⟨-, hc⟩ | ⟨ts, hts, hopen⟩ := step_outside h hst
  · exact absurd hc (by decide)
  · cases hopen
    exact ⟨ts, hts, rfl⟩

theorem step_plain (h : Outside st) (hc : c ≠ '"') (hst : st.step c = some st') : Outside st' := by
  obtain ⟨h, -⟩ | ⟨ts, hts, hopen⟩ := step_outside h hst
  · exact h
  · exact outside_open hts hc hopen

theorem foldlM_quote (h : Outside st) (hread : ('"' :: x).foldlM Scan.step st = some st') :
    ∃ ts, Separators ts ∧ x.foldlM Scan.step ⟨.string [], ts⟩ = some st' := by
  rw [List.foldlM_cons] at hread
  obtain ⟨st₁, hquote, hread⟩ := Option.bind_eq_some_iff.1 hread
  obtain ⟨ts, hts, rfl⟩ := step_quote h hquote
  exact ⟨ts, hts, hread⟩

theorem outside_separator (h : Separators ts) :
    Outside ⟨.between, .string ((joinUnits [44]).map String.ofList) :: ts⟩ := by
  have hcomma : (joinUnits [44]).map String.ofList = some "," := by simp [joinUnits]
  intro s hs
  obtain hs | hs := List.mem_cons.1 hs
  · cases hs
    exact hcomma
  · exact h s hs

theorem separators_foldlM (h : Inside s) (hx : x <+: s) (hst : Outside st)
    (hread : x.foldlM Scan.step st = some st') : Separators st'.tokens := by
  induction h generalizing x st with
  | last =>
    match x, hx with
    | [], _ =>
      cases hread
      exact hst.separators
    | d :: x, hx =>
      obtain ⟨rfl, hclose⟩ := List.cons_prefix_cons.1 hx
      obtain ⟨ts, hts, hread⟩ := foldlM_quote hst hread
      match x, hclose with
      | [], _ =>
        cases hread
        exact hts
      | e :: x, hclose =>
        obtain ⟨rfl, hend⟩ := List.cons_prefix_cons.1 hclose
        obtain rfl := List.prefix_nil.1 hend
        cases hread
        exact hts
  | next _ ih =>
    match x, hx with
    | [], _ =>
      cases hread
      exact hst.separators
    | d :: x, hx =>
      obtain ⟨rfl, hcomma⟩ := List.cons_prefix_cons.1 hx
      obtain ⟨ts, hts, hread⟩ := foldlM_quote hst hread
      match x, hcomma with
      | [], _ =>
        cases hread
        exact hts
      | [e], hcomma =>
        obtain ⟨rfl, -⟩ := List.cons_prefix_cons.1 hcomma
        cases hread
        exact hts
      | e :: f :: x, hcomma =>
        obtain ⟨rfl, hopen⟩ := List.cons_prefix_cons.1 hcomma
        obtain ⟨rfl, hrest⟩ := List.cons_prefix_cons.1 hopen
        exact ih hrest (outside_separator hts) hread
  | @unit n u r hu _ ih =>
    cases x with
    | nil =>
      cases hread
      exact hst.separators
    | cons d x =>
      rw [List.foldlM_cons] at hread
      obtain ⟨st₁, hd, hread⟩ := Option.bind_eq_some_iff.1 hread
      obtain ⟨c, rfl, hc, -⟩ | ⟨t, rfl, -⟩ := unitText_cases hu
      · obtain ⟨rfl, hrest⟩ := List.cons_prefix_cons.1 hx
        exact ih hrest (step_plain hst hc hd) hread
      · obtain ⟨rfl, -⟩ := List.cons_prefix_cons.1 hx
        cases (not_step_backslash hst).symm.trans hd

theorem separators_tokens? (h : Inside s) (hx : x <+: s) (hts : tokens? ('\x7b' :: x) = some ts) :
    Separators ts := by
  obtain ⟨st, hread, hend⟩ := Option.bind_eq_some_iff.1 hts
  have hbrace : Outside ⟨.between, [.openBrace]⟩ :=
    separators_cons (by rintro _ ⟨⟩) fun _ h => nomatch h
  have hst : Separators st.tokens := separators_foldlM h hx hbrace hread
  obtain ⟨mode, us⟩ := st
  intro k hk
  cases mode with
  | between =>
    cases hend
    exact hst k (List.mem_reverse.1 hk)
  | number read =>
    obtain ⟨t, ht, rfl⟩ := Option.map_eq_some_iff.1 hend
    obtain ⟨l, -, rfl⟩ := Option.map_eq_some_iff.1 ht
    exact separators_cons (by rintro _ ⟨⟩) hst k (List.mem_reverse.1 hk)
  | word read =>
    obtain ⟨t, ht, rfl⟩ := Option.map_eq_some_iff.1 hend
    exact separators_cons (word?_ne_string ht) hst k (List.mem_reverse.1 hk)
  | string _ | escape _ | hex _ _ _ => cases hend

theorem key_mem_of_fieldsToJson? {fs : List (Option String × Syntax)}
    {fields : List (String × Json)}
    (h : Syntax.fieldsToJson? n fs = some fields) :
    ∀ f ∈ fields, ∃ y ∈ fieldTokens fs, .string (some f.1) ∈ y := by
  induction fs generalizing fields with
  | nil =>
    cases h
    exact List.forall_mem_nil _
  | cons g fs ih =>
    obtain ⟨k, v⟩ := g
    rw [Syntax.fieldsToJson?] at h
    obtain ⟨name, hname, hvalue⟩ := Option.bind_eq_some_iff.1 h
    obtain ⟨w, -, hfields⟩ := Option.bind_eq_some_iff.1 hvalue
    obtain ⟨rest, hrest, hbuilt⟩ := Option.bind_eq_some_iff.1 hfields
    cases hbuilt
    subst hname
    refine List.forall_mem_cons.2 ⟨⟨_, List.mem_cons_self, List.mem_cons_self⟩, fun f hf => ?_⟩
    obtain ⟨y, hy, hk⟩ := ih hrest f hf
    exact ⟨y, List.mem_cons_of_mem _ hy, hk⟩

theorem key_mem_tokens {fields : List (String × Json)} (h : Json.read? s = some (.object fields)) :
    ∃ ts, tokens? s = some ts ∧ ∀ f ∈ fields, .string (some f.1) ∈ ts := by
  obtain ⟨v, hv, h⟩ := Option.bind_eq_some_iff.1 h
  obtain ⟨ts, hts, hv⟩ := Option.bind_eq_some_iff.1 hv
  obtain ⟨fs, rfl⟩ := eq_object_of_toJson? h
  rw [nesting, Syntax.toJson?] at h
  obtain ⟨read, hread, hsorted⟩ := Option.map_eq_some_iff.1 h
  cases hsorted
  refine ⟨ts, hts, fun f hf => ?_⟩
  obtain ⟨y, hy, hk⟩ := key_mem_of_fieldsToJson? hread f (mem_sortFields hf)
  rw [Syntax.ofTokens?_eq_some_iff.1 hv]
  exact List.mem_cons_of_mem _ (List.mem_append_left _ (mem_joined hy hk))

theorem field?_of_inside {v : Json} (h : Inside s) (hx : x <+: s)
    (hv : readObject? ('\x7b' :: x) = some v) : v.field? "candidates" = none := by
  obtain ⟨w, hw, hobject⟩ := Option.bind_eq_some_iff.1 hv
  obtain ⟨rfl, fields, rfl⟩ := asObject?_eq_some hobject
  obtain ⟨ts, hts, hkeys⟩ := key_mem_tokens hw
  refine List.lookup_eq_none_iff.2 fun f hf => ?_
  have hcomma : f.1 = "," := Option.some.inj (separators_tokens? h hx hts _ (hkeys f hf))
  rw [hcomma]
  decide

theorem sorted_strings (xs : List String) : (Json.strings xs).Sorted := by
  refine .array fun v hv => ?_
  obtain ⟨x, -, rfl⟩ := List.mem_map.1 hv
  exact .string x

theorem nests_strings (xs : List String) (n : Nat) : (Json.strings xs).Nests (n + 1) := by
  refine .array fun v hv => ?_
  obtain ⟨x, -, rfl⟩ := List.mem_map.1 hv
  exact .string n x

theorem not_holds_strings (xs : List String) (m : Json.Number) : ¬(Json.strings xs).Holds m := by
  rintro (_ | ⟨hv, hm⟩)
  obtain ⟨x, -, rfl⟩ := List.mem_map.1 hv
  cases hm

theorem read?_strings (xs : List String) :
    Json.read? (Json.strings xs).render = some (Json.strings xs) :=
  read?_render (sorted_strings xs) (nests_strings xs 126) fun m hm =>
    absurd hm (not_holds_strings xs m)

theorem extract_strings (xs : List String) :
    extract (Json.strings xs).render = .ok (Json.strings xs).render := by
  have hfirm : Text.Firm (Json.strings xs).render := Text.firm_enclosed rfl rfl _
  rw [extract, hfirm.trim_eq, if_pos]
  rfl

theorem readObject?_strings (xs : List String) : readObject? (Json.strings xs).render = none := by
  rw [readObject?, read?_strings]
  rfl

theorem listed?_strings (xs : List String) : listed? (Json.strings xs).render = none := by
  have hobject : object? (Json.strings xs).render =
      (findObject? (Json.strings xs).render).bind readObject? := by
    rw [object?, extract_strings]
    simp only [Except.toOption, Option.bind_some, readObject?_strings]
  rw [listed?, hobject]
  cases hb : findObject? (Json.strings xs).render with
  | none => rfl
  | some b =>
    obtain ⟨p, t, ⟨hs, -, ⟨r, rfl⟩, -⟩, -⟩ := span_of_findObject? hb
    cases xs with
    | nil =>
      have hmem : '\x7b' ∈ (Json.strings []).render := by rw [hs]; simp
      exact absurd hmem (by decide)
    | cons x xs =>
      obtain ⟨u, hu, hinside⟩ := inside_items x xs
      have htext : '[' :: '"' :: u = p ++ '\x7b' :: (r ++ t) :=
        calc '[' :: '"' :: u = (Json.strings (x :: xs)).render := by rw [← hu]; rfl
          _ = p ++ '\x7b' :: r ++ t := hs
          _ = p ++ '\x7b' :: (r ++ t) := List.append_assoc ..
      obtain _ | ⟨_, _ | ⟨_, p⟩⟩ := p
      · simp at htext
      · simp at htext
      · rw [(List.cons.inj (List.cons.inj htext).2).2] at hinside
        have hfield : (readObject? ('\x7b' :: r)).bind (Json.field? "candidates") = none := by
          refine Option.bind_eq_none_iff.2 fun v hv => ?_
          exact field?_of_inside hinside.after_brace (List.prefix_append r t) hv
        rw [Option.bind_some, hfield]
        rfl

theorem not_holds_field (xs : List String) (m : Json.Number) :
    ¬(Json.object [("candidates", Json.strings xs)]).Holds m := by
  rintro (_ | _ | ⟨hf, hm⟩)
  obtain rfl := List.mem_singleton.1 hf
  exact not_holds_strings xs m hm

theorem read?_field (xs : List String) :
    Json.read? (Json.object [("candidates", Json.strings xs)]).render =
      some (.object [("candidates", Json.strings xs)]) := by
  refine read?_render (.object (List.pairwise_singleton _ _) ?_) (.object ?_) fun m hm =>
    absurd hm (not_holds_field xs m)
  · exact List.forall_mem_singleton.2 (sorted_strings xs)
  · exact List.forall_mem_singleton.2 (nests_strings xs 125)

theorem listed?_field (xs : List String) :
    listed? (Json.object [("candidates", Json.strings xs)]).render = some (xs.map .string) := by
  have htext := written_render _ fun m hm => absurd hm (not_holds_field xs m)
  have hobject :=
    object?_of_text (p := []) (t := []) (guessed_of_blank rfl _) List.not_mem_nil htext
  rw [List.nil_append, List.append_nil, read?_field] at hobject
  rw [listed?, hobject]
  rfl

theorem bare?_strings (xs : List String) :
    bare? (Json.strings xs).render = some (xs.map .string) := by
  rw [bare?, extract_strings]
  simp only [Except.toOption, Option.bind_some, read?_strings]
  rfl

theorem filterMap_candidateOf? (xs : List String) :
    (xs.map Json.string).filterMap candidateOf? = xs := by
  rw [List.filterMap_map]
  exact List.filterMap_some

theorem candidates_of_proposals {s : String} {xs : List String} {n : Nat}
    (h : proposals s.toList = xs) (hn : 1 ≤ n) :
    candidates s n =
      if xs.all Text.blankString then .error (noCandidates s)
      else .ok ((xs.filter fun x => !Text.blankString x).take n) := by
  have hempty : ((xs.filter fun x => !Text.blankString x).take n).isEmpty =
      xs.all Text.blankString := by
    rw [Bool.eq_iff_iff, List.isEmpty_iff, List.take_eq_nil_iff, List.filter_eq_nil_iff,
      List.all_eq_true]
    simp only [Bool.not_eq_true', Bool.not_eq_false]
    exact or_iff_right (Nat.one_le_iff_ne_zero.1 hn)
  rw [candidates, h]
  simp only [hempty]

theorem candidates_listed (xs : List String) (n : Nat) (hn : 1 ≤ n) :
    ∀ v ∈ [Json.strings xs, Json.object [("candidates", Json.strings xs)]],
      candidates v.text n =
        if xs.all Text.blankString then .error (noCandidates v.text)
        else .ok ((xs.filter fun x => !Text.blankString x).take n) := by
  intro v hv
  refine candidates_of_proposals ?_ hn
  rw [Json.text, String.toList_ofList, proposals]
  obtain rfl | hv := List.mem_cons.1 hv
  · rw [listed?_strings, Option.orElse_none, bare?_strings]
    exact filterMap_candidateOf? xs
  · obtain rfl := List.mem_singleton.1 hv
    rw [listed?_field, Option.orElse_some]
    exact filterMap_candidateOf? xs

theorem candidates_listed_braces :
    let xs := ["\x7b", "\":[\\", " ", "\x7d"]
    1 ≤ 2 ∧ ∀ v ∈ [Json.strings xs, Json.object [("candidates", Json.strings xs)]],
      candidates v.text 2 =
        if xs.all Text.blankString then .error (noCandidates v.text)
        else .ok ((xs.filter fun x => !Text.blankString x).take 2) := by
  intro xs
  exact ⟨by decide, candidates_listed xs 2 (by decide)⟩

end Deliberation.Reply
