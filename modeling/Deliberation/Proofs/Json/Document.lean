import Deliberation.Json.Record
import Deliberation.Proofs.Json.Roundtrip
import Mathlib.Data.List.Nodup

namespace Deliberation.Json

variable {α : Type} {d : Decoder α} {n bound : Nat} {v : Json} {a : α} {k : String}
  {fs : List (String × Json)}

def Legible (v : Json) : Prop :=
  ∀ m, v.Holds m → m.Legible

structure Carries (d : Decoder α) (n : Nat) (v : Json) (a : α) : Prop where
  legible : v.Legible
  decodes : d n (Syntax.ofJson v) = some a

theorem Carries.decodeText (h : Carries d nesting v a) : decodeText d v.text = some a := by
  have hread := read?_of_written spaces_nil (written_render v h.legible) spaces_nil
  rw [List.nil_append, List.append_nil] at hread
  rw [Json.decodeText, text, String.toList_ofList, hread, Option.bind_some, h.decodes]

section Nests

attribute [simp] Nests.null Nests.bool Nests.number Nests.string

theorem Nests.of_array {vs : List Json} (h : (Json.array vs).Nests n) :
    ∃ k, n = k + 1 ∧ ∀ v ∈ vs, v.Nests k := by
  cases h with
  | array h => exact ⟨_, rfl, h⟩

theorem Nests.of_object (h : (Json.object fs).Nests n) :
    ∃ k, n = k + 1 ∧ ∀ f ∈ fs, f.2.Nests k := by
  cases h with
  | object h => exact ⟨_, rfl, h⟩

@[simp]
theorem nests_array {vs : List Json} : (array vs).Nests (n + 1) ↔ ∀ v ∈ vs, v.Nests n := by
  refine ⟨fun h => ?_, .array⟩
  cases h with
  | array h => exact h

@[simp]
theorem nests_object : (object fs).Nests (n + 1) ↔ ∀ f ∈ fs, f.2.Nests n := by
  refine ⟨fun h => ?_, .object⟩
  cases h with
  | object h => exact h

end Nests

def CarriesAny (d : Decoder α) (n : Nat) (enc : α → Json) (x : Option α) : Prop :=
  ∀ a ∈ x, Carries d n (enc a) a ∧ enc a ≠ .null

section Values

@[simp]
theorem legible_null : null.Legible := by
  rintro m ⟨⟩

@[simp]
theorem legible_string (s : String) : (string s).Legible := by
  rintro m ⟨⟩

@[simp]
theorem legible_bool (b : Bool) : (bool b).Legible := by
  rintro m ⟨⟩

theorem carries_string (n : Nat) (s : String) : Carries .string n (.string s) s :=
  ⟨legible_string s, rfl⟩

theorem carriesAny_string (n : Nat) (x : Option String) : CarriesAny .string n .string x :=
  fun s _ => ⟨carries_string n s, by simp⟩

theorem carries_bool (n : Nat) (b : Bool) : Carries .bool n (.bool b) b :=
  ⟨legible_bool b, rfl⟩

theorem carries_name {ofName : String → Option α} {s : String} (n : Nat) (h : ofName s = some a) :
    Carries (.name ofName) n (.string s) a where
  legible := legible_string s
  decodes := by
    rw [← h]
    cases n <;> rfl

theorem carries_count (n : Nat) {i : Nat} (hi : i < bound) (hb : bound ≤ Number.wordBound) :
    Carries (.count bound) n (.count i) i where
  legible := by
    rintro m ⟨⟩
    exact legible_int (by omega) (by omega)
  decodes := if_pos hi

structure Kept (x : Float) : Prop where
  isFinite : x.isFinite = true
  legible : (Number.real x).Legible

theorem real_eq_number {x : Float} (h : Kept x) : real x = .number (.real x) :=
  if_pos h.isFinite

theorem carries_float (n : Nat) {x : Float} (h : Kept x) : Carries .float n (.real x) x where
  legible := by
    rw [real_eq_number h]
    rintro m ⟨⟩
    exact h.legible
  decodes := by
    rw [real_eq_number h]
    rfl

theorem real_ne_null {x : Float} (h : Kept x) : real x ≠ .null := by
  rw [real_eq_number h]
  simp

structure Storable (v : Json) : Prop extends WellFormed v where
  doubles : v.Exact

theorem carries_value (h : v.Storable) (hn : v.Nests n) : Carries .value n v v where
  legible := h.toWellFormed.legible h.doubles
  decodes := toJson?_ofJson v h.sorted hn

theorem Carries.some (h : Carries d n v a) (hv : v ≠ .null) :
    Carries (.optional d) n v (some a) where
  legible := h.legible
  decodes := by
    have hd := h.decodes
    cases v with
    | null => exact absurd rfl hv
    | _ =>
      simp only [Decoder.optional, Syntax.ofJson] at hd ⊢
      rw [hd]
      rfl

theorem CarriesAny.getD {enc : α → Json} {x : Option α} (h : CarriesAny d n enc x) :
    Carries (.optional d) n ((x.map enc).getD .null) x := by
  cases x with
  | none => exact ⟨legible_null, rfl⟩
  | some a =>
    obtain ⟨ha, hne⟩ := h a rfl
    exact ha.some hne

theorem carries_list {enc : α → Json} {as : List α} (h : ∀ a ∈ as, Carries d n (enc a) a) :
    Carries (.list d) (n + 1) (.array (as.map enc)) as where
  legible := by
    rintro m (_ | ⟨hv, hm⟩)
    obtain ⟨a, ha, rfl⟩ := List.mem_map.1 hv
    exact (h a ha).legible m hm
  decodes := by
    have hitems : (Syntax.ofItems (as.map enc)).mapM (d n) = Option.some as := by
      induction as with
      | nil => rfl
      | cons a as ih =>
        obtain ⟨ha, has⟩ := List.forall_mem_cons.1 h
        rw [List.map_cons, Syntax.ofItems, List.mapM_cons, ha.decodes, ih has]
        rfl
    exact hitems

theorem carries_strings (n : Nat) (xs : List String) :
    Carries (.list .string) (n + 1) (.strings xs) xs :=
  carries_list fun s _ => carries_string n s

end Values

section Records

def Members.ofFields (n : Nat) (fs : List (String × Json)) : Members :=
  ⟨false, n, fun k => (fs.lookup k).map Syntax.ofJson⟩

theorem ofFields_eq_map (fs : List (String × Json)) :
    Syntax.ofFields fs = fs.map fun f => (some f.1, Syntax.ofJson f.2) := by
  induction fs with
  | nil => rfl
  | cons f fs ih =>
    rw [Syntax.ofFields, ih]
    rfl

theorem lookup_zip (fs : List (String × Json)) (k : String) :
    ((fs.map Prod.fst).zip (fs.map fun f => Syntax.ofJson f.2)).lookup k =
      (fs.lookup k).map Syntax.ofJson := by
  induction fs with
  | nil => rfl
  | cons f fs ih =>
    rw [List.map_cons, List.map_cons, List.zip_cons_cons, List.lookup_cons, ih, List.lookup_cons]
    split <;> rfl

theorem members?_ofJson {names : List String} (h : (fs.map Prod.fst).Nodup) :
    members? names (n + 1) (Syntax.ofJson (.object fs)) = some (.ofFields n fs) := by
  have hkeys : (Syntax.ofFields fs).mapM Prod.fst = some (fs.map Prod.fst) := by
    rw [ofFields_eq_map]
    clear h
    induction fs with
    | nil => rfl
    | cons f fs ih =>
      rw [List.map_cons, List.mapM_cons, ih]
      rfl
  have hdistinct : distinctAmong names (fs.map Prod.fst) = true :=
    List.all_eq_true.2 fun k _ => decide_eq_true (List.nodup_iff_count_le_one.1 h k)
  have hvalues : (Syntax.ofFields fs).map Prod.snd = fs.map fun f => Syntax.ofJson f.2 := by
    rw [ofFields_eq_map, List.map_map]
    rfl
  rw [Syntax.ofJson, members?, hkeys, Option.bind_some, if_pos hdistinct, hvalues]
  simp only [lookup_zip]
  rfl

/-- The fields of a record: some of its names, each once and in their order. -/
structure FieldsOf (fs : List (String × Json)) (names : List String) : Prop where
  keys : (fs.map Prod.fst).Sublist names
  legible : ∀ f ∈ fs, f.2.Legible

namespace FieldsOf

variable {gs : List (String × Json)} {names names' : List String}

theorem all (h : ∀ f ∈ fs, f.2.Legible) : FieldsOf fs (fs.map Prod.fst) :=
  ⟨.refl _, h⟩

theorem append (hf : FieldsOf fs names) (hg : FieldsOf gs names') :
    FieldsOf (fs ++ gs) (names ++ names') where
  keys := by
    rw [List.map_append]
    exact hf.keys.append hg.keys
  legible := List.forall_mem_append.2 ⟨hf.legible, hg.legible⟩

theorem present {enc : α → Json} {x : Option α} (hx : CarriesAny d n enc x) :
    FieldsOf (present k (x.map enc)) [k] := by
  cases x with
  | none => exact ⟨List.nil_sublist _, List.forall_mem_nil _⟩
  | some a => exact .all (List.forall_mem_singleton.2 (hx a rfl).1.legible)

end FieldsOf

theorem carries_record {names : List String} {build : Members → Option α}
    (hn : names.Nodup) (hf : FieldsOf fs names) (hb : build (.ofFields n fs) = some a) :
    Carries (record names build) (n + 1) (.object fs) a where
  legible := by
    rintro m (_ | _ | ⟨hmem, hm⟩)
    exact hf.legible _ hmem m hm
  decodes := by
    rw [record, members?_ofJson (hn.sublist hf.keys), Option.bind_some, hb]

theorem find?_ofFields (n : Nat) (fs : List (String × Json)) (k : String) :
    (Members.ofFields n fs).find? k = (fs.lookup k).map Syntax.ofJson :=
  rfl

theorem required_ofFields (h : fs.lookup k = some v) (hc : Carries d n v a) :
    (Members.ofFields n fs).required k d = some a := by
  rw [Members.required, find?_ofFields, h]
  exact hc.decodes

theorem orElse_ofFields (x : α) (h : fs.lookup k = some v) (hc : Carries d n v a) :
    (Members.ofFields n fs).orElse k x d = some a := by
  rw [Members.orElse, find?_ofFields, h]
  exact hc.decodes

variable {enc : α → Json} {x : Option α}

theorem optional_ofFields (h : fs.lookup k = some v) (hc : Carries (.optional d) n v x) :
    (Members.ofFields n fs).optional k d = some x :=
  orElse_ofFields none h hc

theorem orElse_present (h : fs.lookup k = x.map enc) (hx : CarriesAny d n enc x) :
    (Members.ofFields n fs).orElse k none (.optional d) = some x := by
  cases x with
  | none => rw [Members.orElse, find?_ofFields, h, Option.map_none, Option.map_none]
  | some a =>
    obtain ⟨ha, hne⟩ := hx a rfl
    exact orElse_ofFields none h (ha.some hne)

theorem optional_present (h : fs.lookup k = x.map enc) (hx : CarriesAny d n enc x) :
    (Members.ofFields n fs).optional k d = some x :=
  orElse_present h hx

@[simp]
theorem lookup_present_append (k k' : String) (y : Option Json) (fs : List (String × Json)) :
    (present k y ++ fs).lookup k' = if k' = k then y.or (fs.lookup k') else fs.lookup k' := by
  cases y with
  | none => simp [present]
  | some v =>
    by_cases h : k' = k
    · simp [present, h]
    · simp [present, List.lookup_cons, h, beq_false_of_ne h]

@[simp]
theorem lookup_present (k k' : String) (y : Option Json) :
    (present k y).lookup k' = if k' = k then y else none := by
  have h := lookup_present_append k k' y []
  rw [List.append_nil, List.lookup_nil, Option.or_none] at h
  exact h

end Records

end Deliberation.Json
