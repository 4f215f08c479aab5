import Deliberation.Proofs.Reply.Listing

namespace Deliberation

namespace Text

variable {s t w : List Char}

theorem trimLeft_append (hw : allBlank w = true) (s : List Char) : trimLeft (w ++ s) = trimLeft s :=
  List.dropWhile_append_of_pos (List.all_eq_true.1 hw)

theorem trimRight_append (ht : allBlank t = true) (s : List Char) :
    trimRight (s ++ t) = trimRight s := by
  have ht : allBlank t.reverse = true := by rwa [allBlank, List.all_reverse]
  have h : trimLeft (t.reverse ++ s.reverse) = trimLeft s.reverse := trimLeft_append ht _
  rw [trimLeft, trimLeft] at h
  rw [trimRight, List.reverse_append, h, trimRight]

theorem Firm.trim_append (h : Firm s) (hw : allBlank w = true) (ht : allBlank t = true) :
    trim (w ++ (s ++ t)) = s := by
  have hhead : ∀ c ∈ (s ++ t).head?, isBlank c = false := by
    rw [List.head?_append_of_ne_nil _ h.nonempty]
    exact h.head
  calc trim (w ++ (s ++ t)) = trimRight (s ++ t) := by
        rw [trim, trimLeft_append hw, trimLeft_of_head hhead]
    _ = trimRight (trimLeft s) := by rw [trimRight_append ht, trimLeft_of_head h.head]
    _ = s := h.trim_eq

theorem pieces_eq_splitOn (c : Char) (s : List Char) : pieces c s = s.splitOn c := by
  induction s with
  | nil => rfl
  | cons d s ih =>
    rw [pieces, List.splitOn_cons_eq_if_modifyHead, ih]
    by_cases hd : d = c
    · rw [if_pos hd, if_pos (beq_iff_eq.2 hd)]
    · rw [if_neg hd, if_neg (mt beq_iff_eq.1 hd)]
      cases hs : s.splitOn c with
      | nil => exact absurd hs (List.splitOn_ne_nil c s)
      | cons p ps => rfl

theorem occursIn_eq_false {p s : List Char} (h : ¬p <:+: s) : occursIn p s = false := by
  cases hs : breakOn? p s with
  | none => rw [occursIn, hs, Option.isSome_none]
  | some ab => exact absurd ⟨ab.1, ab.2, (breakOn?_eq_append hs).symm⟩ h

end Text

namespace Reply

open Json

def Indent (w : List Char) : Prop :=
  ∀ c ∈ w, Text.isBlank c = true ∧ c ≠ '\n'

instance : DecidablePred Indent :=
  fun w => List.decidableBAll _ w

/-- The lines of a list whose items are marked from the `k`-th on. Every line may be indented and
end in blanks, and blank lines may stand anywhere. -/
inductive Itemised (marks : Nat → List (List Char)) :
    Nat → List String → List (List Char) → Prop
  | done {k : Nat} : Itemised marks k [] []
  | blank {k : Nat} {xs : List String} {w : List Char} {ls : List (List Char)} (hw : Indent w)
      (h : Itemised marks k xs ls) : Itemised marks k xs (w :: ls)
  | item {k : Nat} {x : String} {xs : List String} {w m t : List Char} {ls : List (List Char)}
      (hw : Indent w) (hm : m ∈ marks k) (ht : Indent t) (h : Itemised marks (k + 1) xs ls) :
      Itemised marks k (x :: xs) ((w ++ (m ++ x.toList ++ t)) :: ls)

def numbers (k : Nat) : List (List Char) :=
  ['.', ')'].map fun e => Nat.toDigits 10 k ++ [e, ' ']

def bullets (_ : Nat) : List (List Char) :=
  ['-', '*'].map fun b => [b, ' ']

def Numbered (s : List Char) : Prop :=
  ∃ ds r, Digits ds ∧ ∃ e ∈ ['.', ')'], s = ds ++ e :: ' ' :: r

structure Plain (s : List Char) : Prop where
  unbraced : '\x7b' ∉ s
  unfenced : ¬fence <:+: s

structure Item (s : List Char) : Prop where
  firm : Text.Firm s
  line : '\n' ∉ s
  plain : Plain s

variable {c : Char} {k n : Nat} {m r s t u w x : List Char} {xs : List String}
  {ls : List (List Char)} {marks : Nat → List (List Char)} {p : List Char → Prop}

theorem plain_nil : Plain [] :=
  ⟨List.not_mem_nil, by decide⟩

theorem Plain.append_cons (hu : Plain u) (hc : c ≠ '\x7b') (hf : c ∉ fence) (hs : Plain s) :
    Plain (u ++ c :: s) where
  unbraced := by
    rw [List.mem_append, List.mem_cons]
    rintro (h | h | h)
    · exact hu.unbraced h
    · exact hc h.symm
    · exact hs.unbraced h
  unfenced := by
    rw [List.infix_append_iff, List.infix_cons_iff]
    rintro (h | (⟨r, h⟩ | h) | ⟨a, b, h, ha, hb⟩)
    · exact hu.unfenced h
    · cases h
      exact hf List.mem_cons_self
    · exact hs.unfenced h
    · cases b with
      | nil => exact hu.unfenced (h ▸ (List.append_nil a).symm ▸ ha.isInfix)
      | cons d b =>
        obtain ⟨rfl, -⟩ := List.cons_prefix_cons.1 hb
        exact hf (h ▸ List.mem_append_right a List.mem_cons_self)

def Inert (c : Char) : Prop :=
  c ∉ ['\n', '\x7b', '[', '`']

instance : DecidablePred Inert :=
  fun c => inferInstanceAs (Decidable (c ∉ _))

theorem Indent.inert (h : Indent w) : ∀ c ∈ w, Inert c := by
  intro c hc hmem
  obtain ⟨hblank, hline⟩ := h c hc
  simp only [List.mem_cons, List.not_mem_nil, or_false] at hmem
  rcases hmem with rfl | rfl | rfl | rfl
  · exact hline rfl
  all_goals cases hblank

theorem Indent.blank (h : Indent w) : Text.allBlank w = true :=
  List.all_eq_true.2 fun c hc => (h c hc).1

theorem Inert.not_mem_fence (h : Inert c) : c ∉ fence := by
  intro hc
  obtain rfl : c = '`' := by simpa [fence] using hc
  exact h (by decide)

theorem Inert.ne_brace (h : Inert c) : c ≠ '\x7b' := by
  rintro rfl
  exact h (by decide)

theorem Plain.inert_append (hu : ∀ c ∈ u, Inert c) (hs : Plain s) : Plain (u ++ s) := by
  induction u with
  | nil => exact hs
  | cons c u ih =>
    obtain ⟨hc, hu⟩ := List.forall_mem_cons.1 hu
    exact plain_nil.append_cons hc.ne_brace hc.not_mem_fence (ih hu)

theorem plain_of_inert (hu : ∀ c ∈ u, Inert c) : Plain u := by
  rw [← List.append_nil u]
  exact plain_nil.inert_append hu

theorem Plain.append_inert (hs : Plain s) (ht : ∀ c ∈ t, Inert c) : Plain (s ++ t) := by
  cases t with
  | nil => rwa [List.append_nil]
  | cons c t =>
    obtain ⟨hc, ht⟩ := List.forall_mem_cons.1 ht
    exact hs.append_cons hc.ne_brace hc.not_mem_fence (plain_of_inert ht)

theorem plain_intercalate (h : ∀ l ∈ ls, Plain l) : Plain (['\n'].intercalate ls) := by
  induction ls with
  | nil => exact plain_nil
  | cons l ls ih =>
    obtain ⟨hl, hls⟩ := List.forall_mem_cons.1 h
    cases ls with
    | nil => rwa [List.intercalate_singleton]
    | cons l' ls =>
      rw [List.intercalate_cons_cons, List.append_assoc]
      exact hl.append_cons (by decide) (by decide) (ih hls)

theorem Plain.proposals_eq (h : Plain s) (hs : startsJson (Text.trim s) = false) :
    proposals s = candidateLines s := by
  have hfence : Text.occursIn fence s = false := Text.occursIn_eq_false h.unfenced
  have hobject : object? s = none := by
    rw [object?_of_guessed (guessed_of_no_fence hfence), findObject?_of_not_mem h.unbraced]
    rfl
  have hextract : (extract s).toOption = none := by
    have hf : Text.breakOn? fence s = none :=
      Option.isNone_iff_eq_none.1 (Option.isSome_eq_false_iff.1 hfence)
    have hj : Text.breakOn? jsonFence s = none := by
      cases hj : Text.breakOn? jsonFence s with
      | none => rfl
      | some ab => cases hfence.symm.trans (occursIn_fence_of_jsonFence hj)
    rw [extract, hs, hj, hf]
    rfl
  rw [proposals, listed?, hobject, bare?, hextract]
  rfl

theorem afterNumber?_eq_some_iff :
    afterNumber? s = some r ↔ ∃ ds, Digits ds ∧ ∃ e ∈ ['.', ')'], s = ds ++ e :: ' ' :: r := by
  constructor
  · intro h
    obtain ⟨ds, t, ht⟩ : ∃ ds t, Number.splitDigits s = (ds, t) := ⟨_, _, rfl⟩
    obtain ⟨rfl, hd⟩ := splitDigits_eq ht
    simp only [afterNumber?, ht] at h
    split at h
    · cases h
    · next hne =>
      refine ⟨ds, ⟨fun e => hne (List.isEmpty_iff.2 e), hd⟩, ?_⟩
      rw [Option.orElse_eq_or, Option.or_eq_some_iff] at h
      obtain h | ⟨-, h⟩ := h
      · exact ⟨'.', by decide, congrArg (ds ++ ·) (Text.afterPrefix?_eq_some_iff.1 h)⟩
      · exact ⟨')', by decide, congrArg (ds ++ ·) (Text.afterPrefix?_eq_some_iff.1 h)⟩
  · rintro ⟨ds, ⟨hne, hd⟩, e, he, rfl⟩
    have hhead : NoDigitHead (e :: ' ' :: r) := by
      rintro _ ⟨⟩
      exact (List.forall_mem_cons (p := fun c => Number.isDigit c = false)).2
        ⟨rfl, List.forall_mem_singleton.2 rfl⟩ e he
    rw [afterNumber?, splitDigits_append hd hhead]
    obtain rfl | rfl : e = '.' ∨ e = ')' := by simpa using he
    all_goals simp [hne, Text.afterPrefix?]

theorem numbered_iff : Numbered s ↔ (afterNumber? s).isSome = true := by
  rw [Option.isSome_iff_exists]
  constructor
  · rintro ⟨ds, r, hd, he⟩
    exact ⟨r, afterNumber?_eq_some_iff.2 ⟨ds, hd, he⟩⟩
  · rintro ⟨r, hr⟩
    obtain ⟨ds, hd, he⟩ := afterNumber?_eq_some_iff.1 hr
    exact ⟨ds, r, hd, he⟩

structure Marking (marks : Nat → List (List Char)) (p : List Char → Prop) : Prop where
  inert : ∀ k, ∀ m ∈ marks k, ∀ c ∈ m, Inert c
  head : ∀ k, ∀ m ∈ marks k, ∃ c r, m = c :: r ∧ Text.isBlank c = false
  stripped : ∀ k, ∀ m ∈ marks k, ∀ x, p x →
    (afterNumber? (stripBullet (m ++ x))).getD (stripBullet (m ++ x)) = x

theorem inert_of_isDigit (h : Number.isDigit c = true) : Inert c := by
  have hb := digit_bounds h
  intro hmem
  simp only [List.mem_cons, List.not_mem_nil, or_false] at hmem
  rcases hmem with rfl | rfl | rfl | rfl <;> revert hb <;> decide

theorem stripBullet_of_ne (hd : c ≠ '-') (hs : c ≠ '*') (s : List Char) :
    stripBullet (c :: s) = c :: s := by
  simp [stripBullet, Text.afterPrefix?, hd.symm, hs.symm]

theorem marking_numbers : Marking numbers fun _ => True where
  inert := by
    intro k m hm c hc
    obtain ⟨e, he, rfl⟩ := List.mem_map.1 hm
    have hend : ∀ e ∈ ['.', ')'], ∀ c ∈ [e, ' '], Inert c := by simp [Inert]
    obtain hc | hc := List.mem_append.1 hc
    · exact inert_of_isDigit (isDigit_toDigits k c hc)
    · exact hend e he c hc
  head := by
    intro k m hm
    obtain ⟨e, -, rfl⟩ := List.mem_map.1 hm
    obtain ⟨hne, hd⟩ := digits_toDigits k
    obtain ⟨c, ds, hds⟩ := List.exists_cons_of_ne_nil hne
    rw [hds] at hd ⊢
    exact ⟨c, ds ++ [e, ' '], rfl, not_blank_of_isDigit (hd c List.mem_cons_self)⟩
  stripped := by
    intro k m hm x _
    obtain ⟨e, he, rfl⟩ := List.mem_map.1 hm
    obtain ⟨hne, hd⟩ := digits_toDigits k
    have hnumber : afterNumber? (Nat.toDigits 10 k ++ [e, ' '] ++ x) = some x :=
      afterNumber?_eq_some_iff.2 ⟨_, ⟨hne, hd⟩, e, he, by simp⟩
    obtain ⟨c, ds, hds⟩ := List.exists_cons_of_ne_nil hne
    have hc := digit_bounds (hd c (hds ▸ List.mem_cons_self))
    have hbullet : stripBullet (c :: (ds ++ [e, ' '] ++ x)) = c :: (ds ++ [e, ' '] ++ x) := by
      refine stripBullet_of_ne ?_ ?_ _ <;> rintro rfl <;> revert hc <;> decide
    rw [hds] at hnumber ⊢
    simp only [List.cons_append] at hnumber ⊢
    rw [hbullet, hnumber, Option.getD_some]

theorem marking_bullets : Marking bullets fun x => ¬Numbered x where
  inert := by
    intro k m hm
    obtain ⟨b, hb, rfl⟩ := List.mem_map.1 hm
    have h : ∀ b ∈ ['-', '*'], ∀ c ∈ [b, ' '], Inert c := by simp [Inert]
    exact h b hb
  head := by
    intro k m hm
    obtain ⟨b, hb, rfl⟩ := List.mem_map.1 hm
    have h : ∀ b ∈ ['-', '*'], Text.isBlank b = false := by simp [Text.isBlank]
    exact ⟨b, [' '], rfl, h b hb⟩
  stripped := by
    intro k m hm x hx
    have hbullet : stripBullet (m ++ x) = x := by
      obtain ⟨b, hb, rfl⟩ := List.mem_map.1 hm
      obtain rfl | rfl : b = '-' ∨ b = '*' := by simpa using hb
      all_goals simp [stripBullet, Text.afterPrefix?]
    have hnumber : afterNumber? x = none :=
      Option.not_isSome_iff_eq_none.1 (mt numbered_iff.2 hx)
    rw [hbullet, hnumber, Option.getD_none]

theorem Marking.firm (hp : Marking marks p) (hm : m ∈ marks k) (hx : Text.Firm x) :
    Text.Firm (m ++ x) := by
  obtain ⟨c, r, rfl, hc⟩ := hp.head k m hm
  refine ⟨List.cons_ne_nil c _, ?_, ?_⟩
  · rintro _ ⟨⟩
    exact hc
  · rw [List.getLast?_append_of_ne_nil _ hx.nonempty]
    exact hx.last

theorem Marking.stripMarker_eq (hp : Marking marks p) (hm : m ∈ marks k) (hw : Indent w)
    (ht : Indent t) (hfirm : Text.Firm x) (hx : p x) : stripMarker (w ++ (m ++ x ++ t)) = x := by
  have htrim : Text.trim (w ++ (m ++ x ++ t)) = m ++ x :=
    (hp.firm hm hfirm).trim_append hw.blank ht.blank
  simp only [stripMarker, htrim, hp.stripped k m hm x hx, hfirm.trim_eq]

theorem Indent.stripMarker_eq (hw : Indent w) : stripMarker w = [] := by
  rw [stripMarker, Text.trim_eq_nil_iff.2 hw.blank]
  rfl

-- By induction on the lines: a marked line gives its item, and a blank one nothing.
theorem Itemised.stripped (h : Itemised marks k xs ls) (hp : Marking marks p)
    (hx : ∀ x ∈ xs, Item x.toList ∧ p x.toList) :
    ((ls.map stripMarker).filter fun l => !l.isEmpty) = xs.map String.toList := by
  induction h with
  | done => rfl
  | blank hw _ ih =>
    rw [List.map_cons, hw.stripMarker_eq, List.filter_cons_of_neg (by decide), ih hx]
  | item hw hm ht _ ih =>
    obtain ⟨⟨hitem, hpx⟩, hxs⟩ := List.forall_mem_cons.1 hx
    rw [List.map_cons, hp.stripMarker_eq hm hw ht hitem.firm hpx,
      List.filter_cons_of_pos (by simpa using hitem.firm.nonempty), ih hxs, List.map_cons]

theorem Itemised.inline (h : Itemised marks k xs ls) (hp : Marking marks p)
    (hx : ∀ x ∈ xs, Item x.toList) : ∀ l ∈ ls, Plain l ∧ '\n' ∉ l := by
  have hline {u : List Char} (hu : ∀ c ∈ u, Inert c) : '\n' ∉ u := fun h =>
    hu _ h (by decide)
  induction h with
  | done => exact List.forall_mem_nil _
  | blank hw _ ih =>
    exact List.forall_mem_cons.2 ⟨⟨plain_of_inert hw.inert, hline hw.inert⟩, ih hx⟩
  | item hw hm ht _ ih =>
    obtain ⟨hitem, hxs⟩ := List.forall_mem_cons.1 hx
    refine List.forall_mem_cons.2 ⟨⟨?_, ?_⟩, ih hxs⟩
    · exact (((hitem.plain.inert_append (hp.inert _ _ hm)).append_inert ht.inert).inert_append
        hw.inert)
    · simp only [List.mem_append, not_or]
      exact ⟨hline hw.inert, ⟨hline (hp.inert _ _ hm), hitem.line⟩, hline ht.inert⟩

theorem Itemised.ne_nil (h : Itemised marks k xs ls) (hxs : xs ≠ []) : ls ≠ [] := by
  cases h with
  | done => exact absurd rfl hxs
  | blank | item => exact List.cons_ne_nil _ _

theorem prefix_intercalate (l : List Char) (ls : List (List Char)) :
    l <+: ['\n'].intercalate (l :: ls) := by
  cases ls with
  | nil => exact ⟨[], by rw [List.intercalate_singleton, List.append_nil]⟩
  | cons l' ls =>
    rw [List.intercalate_cons_cons, List.append_assoc]
    exact List.prefix_append l _

theorem Itemised.opens (h : Itemised marks k xs ls) (hxs : xs ≠ []) :
    ∃ w j m r, Text.allBlank w = true ∧ m ∈ marks j ∧ ['\n'].intercalate ls = w ++ (m ++ r) := by
  induction h with
  | done => exact absurd rfl hxs
  | @blank k xs w ls hw h ih =>
    obtain ⟨v, j, m, r, hv, hm, hls⟩ := ih hxs
    obtain ⟨l, ls, rfl⟩ := List.exists_cons_of_ne_nil (h.ne_nil hxs)
    refine ⟨w ++ '\n' :: v, j, m, r, ?_, hm, ?_⟩
    · rw [Text.allBlank, List.all_append, List.all_cons]
      exact Bool.and_eq_true_iff.2 ⟨hw.blank, hv⟩
    · rw [List.intercalate_cons_cons, hls]
      simp
  | @item k x xs w m t ls hw hm ht _ _ =>
    obtain ⟨r, hr⟩ := prefix_intercalate (w ++ (m ++ x.toList ++ t)) ls
    exact ⟨w, k, m, x.toList ++ t ++ r, hw.blank, hm, by rw [← hr]; simp⟩

theorem Itemised.startsJson_eq (h : Itemised marks k xs ls) (hp : Marking marks p)
    (hxs : xs ≠ []) : startsJson (Text.trim (['\n'].intercalate ls)) = false := by
  obtain ⟨w, j, m, r, hw, hm, hls⟩ := h.opens hxs
  obtain ⟨c, m, rfl, hc⟩ := hp.head j m hm
  obtain ⟨t, ht⟩ := Text.trim_blank_append (r := m ++ r) hw hc
  have hinert : Inert c := hp.inert j _ hm c List.mem_cons_self
  rw [hls, List.cons_append, ht, startsJson]
  simp only [Inert, List.mem_cons, not_or] at hinert
  simp [hinert]

theorem Itemised.proposals_eq (h : Itemised marks k xs ls) (hp : Marking marks p) (hxs : xs ≠ [])
    (hx : ∀ x ∈ xs, Item x.toList ∧ p x.toList) : proposals (['\n'].intercalate ls) = xs := by
  have hinline := h.inline hp fun x hmem => (hx x hmem).1
  have hplain : Plain (['\n'].intercalate ls) := plain_intercalate fun l hl => (hinline l hl).1
  have hpieces : Text.pieces '\n' (['\n'].intercalate ls) = ls := by
    rw [Text.pieces_eq_splitOn]
    exact List.splitOn_intercalate '\n' (fun l hl => (hinline l hl).2) (h.ne_nil hxs)
  rw [hplain.proposals_eq (h.startsJson_eq hp hxs), candidateLines, hpieces, h.stripped hp hx,
    List.map_map]
  exact List.map_id'' (fun _ => String.ofList_toList) xs

theorem Item.not_blank {x : String} (h : Item x.toList) : Text.blankString x = false := by
  rw [Text.blankString, ← Bool.not_eq_true, ← Text.trim_eq_nil_iff, h.firm.trim_eq]
  exact h.firm.nonempty

theorem Itemised.candidates_eq (h : Itemised marks k xs ls) (hp : Marking marks p) (hxs : xs ≠ [])
    (hx : ∀ x ∈ xs, Item x.toList ∧ p x.toList) (hn : 1 ≤ n) :
    candidates (String.ofList (['\n'].intercalate ls)) n = .ok (xs.take n) := by
  have hproposals : proposals (String.ofList (['\n'].intercalate ls)).toList = xs := by
    rw [String.toList_ofList, h.proposals_eq hp hxs hx]
  have hblank : ∀ x ∈ xs, Text.blankString x = false := fun x hmem => (hx x hmem).1.not_blank
  rw [candidates_of_proposals hproposals hn, if_neg, List.filter_eq_self.2]
  · exact fun x hmem => by rw [hblank x hmem, Bool.not_false]
  · obtain ⟨x, xs, rfl⟩ := List.exists_cons_of_ne_nil hxs
    rw [List.all_cons, hblank x List.mem_cons_self]
    exact Bool.false_ne_true

theorem candidates_itemised :
    (∀ (xs : List String) (ls : List (List Char)) (n : Nat),
      xs ≠ [] → (∀ x ∈ xs, Item x.toList) → Itemised numbers 1 xs ls → 1 ≤ n →
        candidates (String.ofList (['\n'].intercalate ls)) n = .ok (xs.take n)) ∧
    ∀ (xs : List String) (ls : List (List Char)) (n : Nat),
      xs ≠ [] → (∀ x ∈ xs, Item x.toList ∧ ¬Numbered x.toList) → Itemised bullets 1 xs ls → 1 ≤ n →
        candidates (String.ofList (['\n'].intercalate ls)) n = .ok (xs.take n) := by
  refine ⟨fun xs ls n hxs hx h hn => ?_, fun xs ls n hxs hx h hn => ?_⟩
  · exact h.candidates_eq marking_numbers hxs (fun x hmem => ⟨hx x hmem, trivial⟩) hn
  · exact h.candidates_eq marking_bullets hxs hx hn

theorem candidates_itemised_lookalikes :
    let xs := ["- one", "2. two", "`` [3]"]
    let ys := ["* 1", "2.5 x"]
    (∀ x ∈ xs, Item x.toList) ∧ (∀ y ∈ ys, Item y.toList ∧ ¬Numbered y.toList) ∧
      candidates "\n  1. - one\n \t\n2) 2. two \r\n3. `` [3]" 2 = .ok (xs.take 2) ∧
      candidates "* * 1\n\n\t- 2.5 x" 3 = .ok (ys.take 3) := by
  intro xs ys
  have hx : ∀ x ∈ xs, Item x.toList := by
    simp only [xs, List.forall_mem_cons]
    refine ⟨?_, ?_, ?_, List.forall_mem_nil _⟩
    all_goals
      refine ⟨⟨by decide, ?_, ?_⟩, by decide, by decide, by decide⟩ <;> rintro _ ⟨⟩ <;> rfl
  have hy : ∀ y ∈ ys, Item y.toList ∧ ¬Numbered y.toList := by
    simp only [ys, List.forall_mem_cons, numbered_iff]
    refine ⟨⟨?_, by decide⟩, ⟨?_, by decide⟩, List.forall_mem_nil _⟩
    all_goals
      refine ⟨⟨by decide, ?_, ?_⟩, by decide, by decide, by decide⟩ <;> rintro _ ⟨⟩ <;> rfl
  have hnumbers : Itemised numbers 1 xs
      [[], [' ', ' '] ++ (['1', '.', ' '] ++ "- one".toList ++ []), [' ', '\t'],
        [] ++ (['2', ')', ' '] ++ "2. two".toList ++ [' ', '\r']),
        [] ++ (['3', '.', ' '] ++ "`` [3]".toList ++ [])] :=
    .blank (by decide) <| .item (by decide) (by decide) (by decide) <| .blank (by decide) <|
      .item (by decide) (by decide) (by decide) <| .item (by decide) (by decide) (by decide) .done
  have hbullets : Itemised bullets 1 ys
      [[] ++ (['*', ' '] ++ "* 1".toList ++ []), [],
        ['\t'] ++ (['-', ' '] ++ "2.5 x".toList ++ [])] :=
    .item (by decide) (by decide) (by decide) <| .blank (by decide) <|
      .item (by decide) (by decide) (by decide) .done
  refine ⟨hx, hy, ?_, ?_⟩
  · have h := candidates_itemised.1 xs _ 2 (List.cons_ne_nil _ _) hx hnumbers (by decide)
    exact h
  · have h := candidates_itemised.2 ys _ 3 (List.cons_ne_nil _ _) hy hbullets (by decide)
    exact h

end Reply

end Deliberation
