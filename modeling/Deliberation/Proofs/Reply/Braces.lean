import Deliberation.Reply.Object
import Mathlib.Data.List.Basic

namespace Deliberation.Reply

mutual

/-- The characters outside the string literals of a text. A literal without an end goes on to the
end of the text. -/
def bare : List Char → List Char
  | [] => []
  | '"' :: s => bareQuoted s
  | c :: s => c :: bare s

def bareQuoted : List Char → List Char
  | [] => []
  | '\\' :: _ :: s => bareQuoted s
  | '"' :: s => bare s
  | _ :: s => bareQuoted s

end

def opened (s : List Char) : Nat :=
  (bare s).count '\x7b'

def closed (s : List Char) : Nat :=
  (bare s).count '\x7d'

def Balanced (s : List Char) : Prop :=
  opened s = closed s

def bareFrom : Place → List Char → List Char
  | .code, s => bare s
  | .quoted, s => bareQuoted s
  | .escaped, s => bareQuoted s.tail

variable {d n : Nat} {place : Place} {c : Char} {b s u : List Char}

theorem bareFrom_nil (place : Place) : bareFrom place [] = [] := by
  cases place <;> rfl

theorem bareFrom_cons (place : Place) (c : Char) (s : List Char) :
    bareFrom place (c :: s) = bareFrom place [c] ++ bareFrom (place.next c) s := by
  cases place with
  | code =>
    by_cases hq : c = '"'
    · subst hq
      rfl
    · simp only [bareFrom, Place.next, if_neg hq, bare]
      rfl
  | quoted =>
    by_cases hb : c = '\\'
    · subst hb
      cases s with
      | nil => rfl
      | cons d s => simp only [bareFrom, Place.next, bareQuoted]; rfl
    · by_cases hq : c = '"'
      · subst hq
        rfl
      · simp [bareFrom, Place.next, hb, hq, bareQuoted]
  | escaped => rfl

def countFrom (k : Char) (place : Place) (s : List Char) : Nat :=
  (bareFrom place s).count k

theorem countFrom_nil (k : Char) (place : Place) : countFrom k place [] = 0 := by
  rw [countFrom, bareFrom_nil, List.count_nil]

theorem countFrom_cons (k : Char) (place : Place) (c : Char) (s : List Char) :
    countFrom k place (c :: s) = countFrom k place [c] + countFrom k (place.next c) s := by
  rw [countFrom, bareFrom_cons, List.count_append]
  rfl

theorem countFrom_singleton_of_not_brace (ho : ¬(place = .code ∧ c = '\x7b'))
    (hc : ¬(place = .code ∧ c = '\x7d')) :
    countFrom '\x7b' place [c] = 0 ∧ countFrom '\x7d' place [c] = 0 := by
  cases place with
  | code =>
    have ho : c ≠ '\x7b' := fun h => ho ⟨rfl, h⟩
    have hc : c ≠ '\x7d' := fun h => hc ⟨rfl, h⟩
    by_cases hq : c = '"'
    · subst hq
      exact ⟨rfl, rfl⟩
    · simp [countFrom, bareFrom, bare, ho, hc]
  | quoted =>
    by_cases hq : c = '"'
    · subst hq
      exact ⟨rfl, rfl⟩
    · simp [countFrom, bareFrom, bareQuoted]
  | escaped => exact ⟨rfl, rfl⟩

theorem closing?_step (d : Nat) (place : Place) (c : Char) :
    (d + 1 + countFrom '\x7b' place [c] = countFrom '\x7d' place [c] ∧ c = '\x7d' ∧
      ∀ r, closing? (d + 1) place (c :: r) = some [c]) ∨
    ∃ d', d' + countFrom '\x7d' place [c] = d + countFrom '\x7b' place [c] ∧
      ∀ r, closing? (d + 1) place (c :: r) = (closing? (d' + 1) (place.next c) r).map (c :: ·) := by
  by_cases ho : place = .code ∧ c = '\x7b'
  · obtain ⟨rfl, rfl⟩ := ho
    exact .inr ⟨d + 1, rfl, fun _ => rfl⟩
  by_cases hc : place = .code ∧ c = '\x7d'
  · obtain ⟨rfl, rfl⟩ := hc
    cases d with
    | zero => exact .inl ⟨rfl, rfl, fun _ => rfl⟩
    | succ d => exact .inr ⟨d, rfl, fun _ => rfl⟩
  obtain ⟨h₁, h₂⟩ := countFrom_singleton_of_not_brace ho hc
  refine .inr ⟨d, by rw [h₁, h₂], fun r => ?_⟩
  rw [closing?, if_neg ho, if_neg hc]

def Runs (d : Nat) (place : Place) (u : List Char) : Prop :=
  ∃ d', d' + countFrom '\x7d' place u = d + countFrom '\x7b' place u ∧
    ∀ r, closing? (d + 1) place (u ++ r) =
      (closing? (d' + 1) (u.foldl Place.next place) r).map (u ++ ·)

structure Ends (d : Nat) (place : Place) (b : List Char) : Prop where
  found : ∀ r, closing? (d + 1) place (b ++ r) = some b
  count : d + 1 + countFrom '\x7b' place b = countFrom '\x7d' place b
  last : ∃ a, b = a ++ ['\x7d']

theorem runs_nil (d : Nat) (place : Place) : Runs d place [] := by
  refine ⟨d, by rw [countFrom_nil, countFrom_nil], fun r => ?_⟩
  rw [List.nil_append, List.foldl_nil]
  cases closing? (d + 1) place r <;> rfl

theorem Runs.cons {d' : Nat} (hd : d' + countFrom '\x7d' place [c] = d + countFrom '\x7b' place [c])
    (hc : ∀ r, closing? (d + 1) place (c :: r) = (closing? (d' + 1) (place.next c) r).map (c :: ·))
    (h : Runs d' (place.next c) u) : Runs d place (c :: u) := by
  obtain ⟨e, he, hr⟩ := h
  refine ⟨e, ?_, fun r => ?_⟩
  · rw [countFrom_cons '\x7d' place c u, countFrom_cons '\x7b' place c u]
    omega
  · rw [List.cons_append, hc, hr, Option.map_map]
    rfl

theorem Ends.cons {d' : Nat} (hd : d' + countFrom '\x7d' place [c] = d + countFrom '\x7b' place [c])
    (hc : ∀ r, closing? (d + 1) place (c :: r) = (closing? (d' + 1) (place.next c) r).map (c :: ·))
    (h : Ends d' (place.next c) b) : Ends d place (c :: b) := by
  obtain ⟨hf, hn, a, rfl⟩ := h
  refine ⟨fun r => ?_, ?_, c :: a, rfl⟩
  · rw [List.cons_append, hc, hf]
    rfl
  · rw [countFrom_cons '\x7d' place c (_ ++ _), countFrom_cons '\x7b' place c (_ ++ _)]
    omega

theorem runs_or_ends (d : Nat) (place : Place) (s : List Char) :
    Runs d place s ∨ ∃ b, b <+: s ∧ Ends d place b := by
  induction s generalizing d place with
  | nil => exact .inl (runs_nil d place)
  | cons c s ih =>
    obtain ⟨hn, hb, hf⟩ | ⟨d', hd, hc⟩ := closing?_step d place c
    · exact .inr ⟨[c], ⟨s, rfl⟩, hf, hn, [], by rw [hb]; rfl⟩
    · obtain h | ⟨b, hb, h⟩ := ih d' (place.next c)
      · exact .inl (h.cons hd hc)
      · exact .inr ⟨c :: b, (List.prefix_cons_inj c).2 hb, h.cons hd hc⟩

theorem Runs.closing?_eq_none (h : Runs d place s) : closing? (d + 1) place s = none := by
  obtain ⟨d', -, hr⟩ := h
  rw [← List.append_nil s, hr, closing?, Option.map_none]

theorem closing?_eq_some_iff :
    closing? (d + 1) place s = some b ↔ b <+: s ∧ Ends d place b := by
  constructor
  · intro h
    obtain hr | ⟨b', ⟨r, rfl⟩, hb⟩ := runs_or_ends d place s
    · cases hr.closing?_eq_none.symm.trans h
    · cases (hb.found r).symm.trans h
      exact ⟨⟨r, rfl⟩, hb⟩
  · rintro ⟨⟨r, rfl⟩, hb⟩
    exact hb.found r

end Deliberation.Reply
