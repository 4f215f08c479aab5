namespace Deliberation.Text

def isBlank (c : Char) : Bool :=
  let n := c.toNat
  (9 ≤ n && n ≤ 13) || n == 0x20 || n == 0x85 || n == 0xA0 || n == 0x1680 ||
    (0x2000 ≤ n && n ≤ 0x200A) || n == 0x2028 || n == 0x2029 || n == 0x202F ||
    n == 0x205F || n == 0x3000

def trimLeft (s : List Char) : List Char :=
  s.dropWhile isBlank

def trimRight (s : List Char) : List Char :=
  (s.reverse.dropWhile isBlank).reverse

def trim (s : List Char) : List Char :=
  trimRight (trimLeft s)

def allBlank (s : List Char) : Bool :=
  s.all isBlank

theorem trimLeft_eq_nil_iff {s : List Char} : trimLeft s = [] ↔ allBlank s = true := by
  induction s with
  | nil => simp [trimLeft, allBlank]
  | cons c r ih =>
    cases h : isBlank c <;> simp_all [trimLeft, allBlank]

theorem trimRight_eq_nil_iff {s : List Char} : trimRight s = [] ↔ allBlank s = true := by
  rw [trimRight, List.reverse_eq_nil_iff]
  have h : trimLeft s.reverse = [] ↔ allBlank s.reverse = true := trimLeft_eq_nil_iff
  rw [allBlank, List.all_reverse] at h
  exact h

theorem trim_eq_nil_iff {s : List Char} : trim s = [] ↔ allBlank s = true := by
  rw [trim, trimRight_eq_nil_iff]
  induction s with
  | nil => rfl
  | cons c r ih =>
    cases h : isBlank c <;> simp_all [trimLeft, allBlank]

theorem trimRight_eq_append (s : List Char) : ∃ b, s = trimRight s ++ b ∧ allBlank b = true := by
  refine ⟨(s.reverse.takeWhile isBlank).reverse, ?_, ?_⟩
  · rw [trimRight, ← List.reverse_append, List.takeWhile_append_dropWhile, List.reverse_reverse]
  · rw [allBlank, List.all_reverse, List.all_takeWhile]

theorem trim_eq_append (s : List Char) : ∃ a b, s = a ++ (trim s ++ b) ∧ allBlank a = true := by
  obtain ⟨b, hb, -⟩ := trimRight_eq_append (trimLeft s)
  refine ⟨s.takeWhile isBlank, b, ?_, ?_⟩
  · rw [trim, ← hb, trimLeft, List.takeWhile_append_dropWhile]
  · exact List.all_takeWhile

theorem trim_blank_append {w r : List Char} {c : Char} (hw : allBlank w = true)
    (hc : isBlank c = false) : ∃ t, trim (w ++ c :: r) = c :: t := by
  have hl : trimLeft (w ++ c :: r) = c :: r := by
    rw [trimLeft, List.dropWhile_append_of_pos (List.all_eq_true.1 hw), List.dropWhile_cons, hc]
    rfl
  obtain ⟨b, hb, hblank⟩ := trimRight_eq_append (c :: r)
  rw [trim, hl]
  cases ht : trimRight (c :: r) with
  | nil =>
    rw [ht, List.nil_append] at hb
    rw [← hb, allBlank, List.all_cons, hc] at hblank
    cases hblank
  | cons d t =>
    rw [ht] at hb
    cases hb
    exact ⟨t, rfl⟩

def runs (p : Char → Bool) : List Char → List (List Char)
  | [] => []
  | c :: r =>
    if p c then runs p r
    else match r, runs p r with
      | d :: _, w :: ws => if p d then [c] :: w :: ws else (c :: w) :: ws
      | _, _ => [[c]]

def words (s : List Char) : List (List Char) :=
  runs isBlank s

def trimString (s : String) : String :=
  String.ofList (trim s.toList)

def blankString (s : String) : Bool :=
  allBlank s.toList

theorem trimString_eq_empty_iff {s : String} : trimString s = "" ↔ blankString s = true := by
  rw [blankString, ← trim_eq_nil_iff, trimString, ← String.ofList_inj]

end Deliberation.Text
