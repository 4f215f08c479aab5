import Deliberation.Proofs.Json.Printing

namespace Deliberation.Json

open Deliberation.Number

abbrev InOrder (fields : List (String × Json)) : Prop :=
  fields.Pairwise fun f g => f.1 < g.1

section Fields

variable {k : String} {v : Json} {f : String × Json} {fields : List (String × Json)}

theorem mem_insertField (h : f ∈ insertField k v fields) : f = (k, v) ∨ f ∈ fields := by
  induction fields with
  | nil => exact .inl (List.mem_singleton.1 h)
  | cons g fields ih =>
    obtain ⟨k', v'⟩ := g
    rw [insertField] at h
    split at h
    · exact List.mem_cons.1 h
    · split at h
      · exact (List.mem_cons.1 h).imp_right (List.mem_cons_of_mem _)
      · rcases List.mem_cons.1 h with rfl | h
        · exact .inr List.mem_cons_self
        · exact (ih h).imp_right (List.mem_cons_of_mem _)

theorem inOrder_insertField (h : InOrder fields) : InOrder (insertField k v fields) := by
  induction fields with
  | nil => exact List.pairwise_singleton _ _
  | cons g fields ih =>
    obtain ⟨k', v'⟩ := g
    obtain ⟨hg, hr⟩ := List.pairwise_cons.1 h
    rw [insertField]
    split
    · next hlt =>
      refine List.pairwise_cons.2 ⟨fun f hf => ?_, h⟩
      rcases List.mem_cons.1 hf with rfl | hf
      · exact hlt
      · exact String.lt_trans hlt (hg f hf)
    · next hlt =>
      split
      · next heq =>
        subst heq
        exact List.pairwise_cons.2 ⟨hg, hr⟩
      · next hne =>
        have hlater : k' < k :=
          String.not_le.1 fun hle => hne (String.le_antisymm hle (String.not_lt.1 hlt))
        refine List.pairwise_cons.2 ⟨fun f hf => ?_, ih hr⟩
        rcases mem_insertField hf with rfl | hf
        · exact hlater
        · exact hg f hf

theorem insertField_last (h : ∀ f ∈ fields, f.1 < k) :
    insertField k v fields = fields ++ [(k, v)] := by
  induction fields with
  | nil => rfl
  | cons g fields ih =>
    obtain ⟨k', v'⟩ := g
    obtain ⟨hg, hr⟩ := List.forall_mem_cons.1 h
    have hlt : ¬ k < k' := String.lt_asymm hg
    have hne : k ≠ k' := (String.ne_of_lt hg).symm
    rw [insertField, if_neg hlt, if_neg hne, ih hr, List.cons_append]

theorem foldl_insertField {done : List (String × Json)} (h : InOrder (done ++ fields)) :
    fields.foldl (fun acc (k, v) => insertField k v acc) done = done ++ fields := by
  induction fields generalizing done with
  | nil => exact (List.append_nil done).symm
  | cons g fields ih =>
    obtain ⟨k, v⟩ := g
    have hlast : ∀ f ∈ done, f.1 < k := fun f hf =>
      (List.pairwise_append.1 h).2.2 f hf _ List.mem_cons_self
    have hassoc : done ++ (k, v) :: fields = (done ++ [(k, v)]) ++ fields := by
      rw [List.append_assoc, List.singleton_append]
    rw [hassoc] at h ⊢
    rw [List.foldl_cons]
    dsimp only
    rw [insertField_last hlast, ih h]

theorem sortFields_eq_self (h : InOrder fields) : sortFields fields = fields := by
  have hnil : InOrder ([] ++ fields) := h
  exact foldl_insertField hnil

theorem foldl_insertField_inv {done : List (String × Json)} (h : InOrder done) :
    let sorted := fields.foldl (fun acc (k, v) => insertField k v acc) done
    InOrder sorted ∧ ∀ f ∈ sorted, f ∈ done ∨ f ∈ fields := by
  induction fields generalizing done with
  | nil => exact ⟨h, fun _ hf => .inl hf⟩
  | cons g fields ih =>
    obtain ⟨k, v⟩ := g
    obtain ⟨hsorted, hmem⟩ := ih (inOrder_insertField (k := k) (v := v) h)
    refine ⟨hsorted, fun f hf => ?_⟩
    rcases hmem f hf with hf | hf
    · rcases mem_insertField hf with rfl | hf
      · exact .inr List.mem_cons_self
      · exact .inl hf
    · exact .inr (List.mem_cons_of_mem _ hf)

theorem inOrder_sortFields (fields : List (String × Json)) : InOrder (sortFields fields) :=
  (foldl_insertField_inv .nil).1

theorem mem_sortFields (h : f ∈ sortFields fields) : f ∈ fields :=
  ((foldl_insertField_inv .nil).2 f h).resolve_left List.not_mem_nil

end Fields

mutual

theorem toJson?_ofJson (v : Json) {n : Nat} (hs : v.Sorted) (hn : v.Nests n) :
    (Syntax.ofJson v).toJson? n = some v := by
  match v with
  | .null | .bool _ | .number _ | .string _ => cases n <;> rfl
  | .array items =>
    cases hs with
    | array hs =>
      cases hn with
      | array hn =>
        rw [Syntax.ofJson, Syntax.toJson?, itemsToJson?_ofItems items hs hn, Option.map_some]
  | .object fields =>
    cases hs with
    | object hsorted hs =>
      cases hn with
      | object hn =>
        rw [Syntax.ofJson, Syntax.toJson?, fieldsToJson?_ofFields fields hs hn, Option.map_some,
          sortFields_eq_self hsorted]

theorem itemsToJson?_ofItems (vs : List Json) {n : Nat} (hs : ∀ v ∈ vs, v.Sorted)
    (hn : ∀ v ∈ vs, v.Nests n) : Syntax.itemsToJson? n (Syntax.ofItems vs) = some vs := by
  match vs with
  | [] => rfl
  | v :: vs =>
    obtain ⟨hv, hs⟩ := List.forall_mem_cons.1 hs
    obtain ⟨hnv, hn⟩ := List.forall_mem_cons.1 hn
    rw [Syntax.ofItems, Syntax.itemsToJson?, toJson?_ofJson v hv hnv,
      itemsToJson?_ofItems vs hs hn]
    rfl

theorem fieldsToJson?_ofFields (fs : List (String × Json)) {n : Nat}
    (hs : ∀ f ∈ fs, f.2.Sorted) (hn : ∀ f ∈ fs, f.2.Nests n) :
    Syntax.fieldsToJson? n (Syntax.ofFields fs) = some fs := by
  match fs with
  | [] => rfl
  | (k, v) :: fs =>
    obtain ⟨hv, hs⟩ := List.forall_mem_cons.1 hs
    obtain ⟨hnv, hn⟩ := List.forall_mem_cons.1 hn
    rw [Syntax.ofFields, Syntax.fieldsToJson?, toJson?_ofJson v hv hnv,
      fieldsToJson?_ofFields fs hs hn]
    rfl

end

theorem read?_render {v : Json} (hs : v.Sorted) (hn : v.Nests nesting)
    (h : ∀ m, v.Holds m → m.Legible) : read? v.render = some v := by
  have hread := read?_of_written spaces_nil (written_render v h) spaces_nil
  rw [List.nil_append, List.append_nil] at hread
  rw [read?, hread, Option.bind_some, toJson?_ofJson v hs hn]

structure ReadFrom (n : Nat) (ts : List Token) (v : Json) : Prop where
  sorted : v.Sorted
  nests : v.Nests n
  numbers : ∀ m, v.Holds m → Token.number (some m) ∈ ts

theorem mem_joined {t : Token} {x : List Token} {xs : List (List Token)} (hx : x ∈ xs)
    (ht : t ∈ x) : t ∈ joined xs := by
  induction xs with
  | nil => cases hx
  | cons y xs ih =>
    cases xs with
    | nil =>
      rw [List.mem_singleton.1 hx] at ht
      exact ht
    | cons z xs =>
      rcases List.mem_cons.1 hx with rfl | hx
      · exact List.mem_append_left _ ht
      · exact List.mem_append_right _ (List.mem_cons_of_mem _ (ih hx))

namespace ReadFrom

variable {n : Nat} {items : List (List Token)} {before after : Token}

theorem array {vs : List Json} (h : ∀ v ∈ vs, ∃ x ∈ items, ReadFrom n x v) :
    ReadFrom (n + 1) (before :: joined items ++ [after]) (.array vs) := by
  refine ⟨.array fun v hv => ?_, .array fun v hv => ?_, fun m hm => ?_⟩
  · obtain ⟨x, -, hx⟩ := h v hv
    exact hx.sorted
  · obtain ⟨x, -, hx⟩ := h v hv
    exact hx.nests
  · cases hm with
    | item hv hm =>
      obtain ⟨x, hmem, hx⟩ := h _ hv
      exact List.mem_cons_of_mem _ (List.mem_append_left _ (mem_joined hmem (hx.numbers m hm)))

theorem object {fs : List (String × Json)} (h : ∀ f ∈ fs, ∃ x ∈ items, ReadFrom n x f.2) :
    ReadFrom (n + 1) (before :: joined items ++ [after]) (.object (sortFields fs)) := by
  refine ⟨.object (inOrder_sortFields fs) fun f hf => ?_, .object fun f hf => ?_,
    fun m hm => ?_⟩
  · obtain ⟨x, -, hx⟩ := h f (mem_sortFields hf)
    exact hx.sorted
  · obtain ⟨x, -, hx⟩ := h f (mem_sortFields hf)
    exact hx.nests
  · cases hm with
    | field hf hm =>
      obtain ⟨x, hmem, hx⟩ := h _ (mem_sortFields hf)
      exact List.mem_cons_of_mem _ (List.mem_append_left _ (mem_joined hmem (hx.numbers m hm)))

end ReadFrom

mutual

theorem readFrom_of_toJson? (s : Syntax) {n : Nat} {v : Json} (h : s.toJson? n = some v) :
    ReadFrom n s.tokens v := by
  match s, n with
  | .null, n =>
    rw [Syntax.toJson?] at h
    cases h
    exact ⟨.null, .null n, fun _ hm => nomatch hm⟩
  | .bool b, n =>
    rw [Syntax.toJson?] at h
    cases h
    exact ⟨.bool b, .bool n b, fun _ hm => nomatch hm⟩
  | .number x, n =>
    rw [Syntax.toJson?] at h
    obtain ⟨m, rfl, rfl⟩ := Option.map_eq_some_iff.1 h
    refine ⟨.number m, .number n m, fun m' hm => ?_⟩
    cases hm
    exact List.mem_singleton_self _
  | .string x, n =>
    rw [Syntax.toJson?] at h
    obtain ⟨t, rfl, rfl⟩ := Option.map_eq_some_iff.1 h
    exact ⟨.string t, .string n t, fun _ hm => nomatch hm⟩
  | .array items, 0 => cases h
  | .object fields, 0 => cases h
  | .array items, n + 1 =>
    rw [Syntax.toJson?] at h
    obtain ⟨vs, hvs, rfl⟩ := Option.map_eq_some_iff.1 h
    exact .array (readFrom_of_itemsToJson? items hvs)
  | .object fields, n + 1 =>
    rw [Syntax.toJson?] at h
    obtain ⟨fs, hfs, rfl⟩ := Option.map_eq_some_iff.1 h
    exact .object (readFrom_of_fieldsToJson? fields hfs)

theorem readFrom_of_itemsToJson? (items : List Syntax) {n : Nat} {vs : List Json}
    (h : Syntax.itemsToJson? n items = some vs) :
    ∀ v ∈ vs, ∃ x ∈ itemTokens items, ReadFrom n x v := by
  match items with
  | [] =>
    cases h
    exact List.forall_mem_nil _
  | s :: items =>
    rw [Syntax.itemsToJson?] at h
    obtain ⟨v, hv, h⟩ := Option.bind_eq_some_iff.1 h
    obtain ⟨vs, hvs, h⟩ := Option.bind_eq_some_iff.1 h
    cases h
    refine List.forall_mem_cons.2 ⟨⟨_, List.mem_cons_self, readFrom_of_toJson? s hv⟩, ?_⟩
    intro u hu
    obtain ⟨x, hmem, hx⟩ := readFrom_of_itemsToJson? items hvs u hu
    exact ⟨x, List.mem_cons_of_mem _ hmem, hx⟩

theorem readFrom_of_fieldsToJson? (fields : List (Option String × Syntax)) {n : Nat}
    {fs : List (String × Json)} (h : Syntax.fieldsToJson? n fields = some fs) :
    ∀ f ∈ fs, ∃ x ∈ fieldTokens fields, ReadFrom n x f.2 := by
  match fields with
  | [] =>
    cases h
    exact List.forall_mem_nil _
  | (k, s) :: fields =>
    rw [Syntax.fieldsToJson?] at h
    obtain ⟨name, -, h⟩ := Option.bind_eq_some_iff.1 h
    obtain ⟨v, hv, h⟩ := Option.bind_eq_some_iff.1 h
    obtain ⟨fs, hfs, h⟩ := Option.bind_eq_some_iff.1 h
    cases h
    have hhead := readFrom_of_toJson? s hv
    refine List.forall_mem_cons.2 ⟨⟨_, List.mem_cons_self, hhead.sorted, hhead.nests, ?_⟩, ?_⟩
    · intro m hm
      exact List.mem_cons_of_mem _ (List.mem_cons_of_mem _ (hhead.numbers m hm))
    · intro f hf
      obtain ⟨x, hmem, hx⟩ := readFrom_of_fieldsToJson? fields hfs f hf
      exact ⟨x, List.mem_cons_of_mem _ hmem, hx⟩

end

theorem Lexed.spelled {ts : List Token} {s : List Char} (h : Lexed ts s) {t : Token}
    (ht : t ∈ ts) : ∃ x, t.Spelled x := by
  induction h with
  | nil _ => cases ht
  | cons _ hx _ ih =>
    rcases List.mem_cons.1 ht with rfl | ht
    · exact ⟨_, hx⟩
    · exact ih ht

theorem Token.Spelled.literal {n : Option Number} {x : List Char}
    (h : (Token.number n).Spelled x) : ∃ l : Literal, l.number? = n := by
  generalize ht : Token.number n = t at h
  cases h with
  | mark h =>
    subst ht
    cases markOf?_of_mark? h
  | word h =>
    subst ht
    unfold word? at h
    repeat' split at h
    all_goals cases h
  | number _ =>
    cases ht
    exact ⟨_, rfl⟩
  | string _ => cases ht

def Number.InRange : Number → Prop
  | .int n => -(signBound : Int) ≤ n ∧ n < wordBound
  | .real _ => True

theorem inRange_number? {l : Literal} {n : Number} (h : l.number? = some n) : n.InRange := by
  rw [Literal.number?] at h
  have hreal : ∀ {r : Option Float}, r.map Number.real = some n → n.InRange := by
    intro r hr
    obtain ⟨x, -, rfl⟩ := Option.map_eq_some_iff.1 hr
    trivial
  split at h
  · dsimp only at h
    split at h
    · split at h
      · next hn =>
        cases h
        have hbound : 0 < wordBound := by decide
        constructor <;> omega
      · exact hreal h
    · split at h
      · next hn =>
        cases h
        have hbound : 0 < signBound := by decide
        constructor <;> omega
      · exact hreal h
  · exact hreal h

theorem tokens_of_read? {s : List Char} {v : Json} (h : read? s = some v) :
    ∃ ts, tokens? s = some ts ∧ ReadFrom nesting ts v := by
  obtain ⟨syn, hsyn, hv⟩ := Option.bind_eq_some_iff.1 h
  obtain ⟨ts, hts, hsyn⟩ := Option.bind_eq_some_iff.1 hsyn
  have hread := readFrom_of_toJson? syn hv
  rw [Syntax.ofTokens?_eq_some_iff] at hsyn
  subst hsyn
  exact ⟨_, hts, hread⟩

theorem literal_of_read? {s : List Char} {v : Json} (h : read? s = some v) {m : Number}
    (hm : v.Holds m) : ∃ l : Literal, l.number? = some m := by
  obtain ⟨ts, hts, hread⟩ := tokens_of_read? h
  obtain ⟨x, hx⟩ := (lexed_of_tokens? hts).spelled (hread.numbers m hm)
  exact hx.literal

theorem readFrom_of_read? {s : List Char} {v : Json} (h : read? s = some v) :
    v.Sorted ∧ v.Nests nesting ∧ ∀ m, v.Holds m → m.InRange := by
  obtain ⟨ts, -, hread⟩ := tokens_of_read? h
  refine ⟨hread.sorted, hread.nests, fun m hm => ?_⟩
  obtain ⟨l, hl⟩ := literal_of_read? h hm
  exact inRange_number? hl

structure WellFormed (v : Json) : Prop where
  sorted : v.Sorted
  inRange : ∀ m, v.Holds m → m.InRange

def Exact (v : Json) : Prop :=
  ∀ x, v.Holds (.real x) → (Number.real x).Legible

theorem WellFormed.legible {v : Json} (h : v.WellFormed) (hv : v.Exact) (m : Number)
    (hm : v.Holds m) : m.Legible := by
  cases m with
  | int n =>
    obtain ⟨hlow, hhigh⟩ := h.inRange _ hm
    exact legible_int hlow hhigh
  | real x => exact hv x hm

end Deliberation.Json
