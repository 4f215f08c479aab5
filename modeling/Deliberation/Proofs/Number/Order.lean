import Deliberation.Number.UnitInterval

namespace Deliberation.Number

open Float.Model

theorem compare_swap (a b : UnpackedFloat) : b.compare a = (a.compare b).map Ordering.swap := by
  have hs (m n : Nat) (d e : Int) : (compare e d).then (compare n m) =
      ((compare d e).then (compare m n)).swap := by
    rw [Ordering.swap_then, Int.compare_swap, Nat.compare_swap]
  cases a with
  | notANumber =>
    cases b with
    | notANumber => rfl
    | infinity t | zero t | finite t => cases t <;> rfl
  | infinity s | zero s =>
    cases b with
    | notANumber => cases s <;> rfl
    | infinity t | zero t | finite t => cases s <;> cases t <;> rfl
  | finite s m d =>
    cases b with
    | notANumber => cases s <;> rfl
    | infinity t | zero t => cases s <;> cases t <;> rfl
    | finite t n e =>
      cases s with
      | positive =>
        cases t with
        | positive => exact congrArg some (hs m n d e)
        | negative => rfl
      | negative =>
        cases t with
        | positive => rfl
        | negative => exact congrArg (fun o => some o.swap) (hs m n d e)

theorem isSome_compare {a b : UnpackedFloat} (ha : a.isNaN = false) (hb : b.isNaN = false) :
    (a.compare b).isSome = true := by
  cases a with
  | notANumber => exact Bool.noConfusion ha
  | infinity s | zero s | finite s =>
    cases b with
    | notANumber => exact Bool.noConfusion hb
    | infinity t | zero t | finite t => cases s <;> cases t <;> rfl

theorem lt_iff_compare (x y : Float) :
    x < y ↔ x.toModel.unpack.compare y.toModel.unpack = some .lt := by
  change decide ((x.toModel.unpack.compare y.toModel.unpack == some .lt) = true) = true ↔ _
  rw [decide_eq_true_iff, beq_iff_eq]

theorem le_iff_compare (x y : Float) :
    x ≤ y ↔ ∃ o, x.toModel.unpack.compare y.toModel.unpack = some o ∧ o.isLE = true := by
  change decide ((x.toModel.unpack.compare y.toModel.unpack).any (·.isLE) = true) = true ↔ _
  rw [decide_eq_true_iff, Option.any_eq_true]

theorem isNaN_of_isFinite {x : Float} (h : x.isFinite = true) : x.isNaN = false := by
  change x.toModel.unpack.isFinite = true at h
  change x.toModel.unpack.isNaN = false
  cases hx : x.toModel.unpack with
  | notANumber =>
    rw [hx] at h
    exact Bool.noConfusion h
  | _ => rfl

theorem not_lt_of_le {x y : Float} (h : x ≤ y) : ¬ y < x := by
  obtain ⟨o, ho, hle⟩ := (le_iff_compare x y).1 h
  rw [lt_iff_compare, compare_swap, ho]
  cases o <;> simp_all

theorem le_of_not_lt {x y : Float} (hx : x.isNaN = false) (hy : y.isNaN = false) (h : ¬ x < y) :
    y ≤ x := by
  obtain ⟨o, ho⟩ := Option.isSome_iff_exists.1 (isSome_compare
    (a := x.toModel.unpack) (b := y.toModel.unpack) hx hy)
  have hn : o ≠ .lt := fun hl => h ((lt_iff_compare x y).2 (hl ▸ ho))
  refine (le_iff_compare y x).2 ⟨o.swap, ?_, ?_⟩
  · rw [compare_swap, ho]
    rfl
  · cases o <;> simp_all

structure InUnit (x : Float) : Prop where
  isFinite : x.isFinite = true
  zero_le : 0.0 ≤ x
  le_one : x ≤ 1.0

theorem inUnit_zero : InUnit 0.0 :=
  ⟨by decide, by decide, by decide⟩

theorem inUnit_one : InUnit 1.0 :=
  ⟨by decide, by decide, by decide⟩

theorem inUnit_half : InUnit 0.5 :=
  ⟨by decide, by decide, by decide⟩

theorem inUnit_clamp {x : Float} (h : x.isFinite = true) : InUnit (clamp x) := by
  have hx := isNaN_of_isFinite h
  rw [clamp]
  split
  · exact inUnit_zero
  · next h0 =>
    split
    · exact inUnit_one
    · next h1 => exact ⟨h, le_of_not_lt hx (by decide) h0, le_of_not_lt (by decide) hx h1⟩

theorem clamp_of_inUnit {x : Float} (h : InUnit x) : clamp x = x := by
  rw [clamp, if_neg (not_lt_of_le h.zero_le), if_neg (not_lt_of_le h.le_one)]

theorem inUnit_normalize (x : Float) : InUnit (normalize x) := by
  rw [normalize]
  split
  · next h => exact inUnit_clamp h
  · exact inUnit_zero

theorem normalize_of_inUnit {x : Float} (h : InUnit x) : normalize x = x := by
  rw [normalize, if_pos h.isFinite, clamp_of_inUnit h]

end Deliberation.Number
