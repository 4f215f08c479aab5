import Deliberation.Json.Value
import Deliberation.Proofs.Number.Linear

namespace Deliberation.Number

open Float.Model
open UnpackedFloat (packComponents unpackExponent unpackMantissa)

def isNonzero : UnpackedFloat → Bool
  | .finite .. => true
  | _ => false

section Unpacked

variable {f : Format} {a b : UnpackedFloat}

theorem fields_of_isNaN {v : BitVec f.numBits} (h : (UnpackedFloat.unpack f v).isNaN = true) :
    unpackExponent v = -1#_ ∧ unpackMantissa v ≠ 0#_ := by
  revert h
  fun_cases UnpackedFloat.unpack f v with
  | case2 _ _ he hm => exact fun _ => ⟨he, hm⟩
  | _ => exact fun h => nomatch h

theorem exponent_ne {n : Nat} (h : n + 1 < 2 ^ f.exponentBits) :
    BitVec.ofNat f.exponentBits n ≠ -1#_ := by
  intro he
  have he := congrArg BitVec.toNat he
  rw [BitVec.toNat_ofNat, Nat.mod_eq_of_lt (by omega), BitVec.neg_one_eq_allOnes,
    BitVec.toNat_allOnes] at he
  omega

theorem isNaN_unpack_pack (h : a.isNaN = false) :
    (UnpackedFloat.unpack f (UnpackedFloat.pack f a)).isNaN = false := by
  refine Bool.eq_false_iff.2 fun hn => ?_
  obtain ⟨he, hm⟩ := fields_of_isNaN hn
  cases a with
  | notANumber => cases h
  | infinity s => simp [UnpackedFloat.pack, UnpackedFloat.packedInfinity] at hm
  | zero s => simp [UnpackedFloat.pack, UnpackedFloat.packedZero] at hm
  | finite s m e hpos =>
    rw [UnpackedFloat.pack] at he hm
    split at he
    · next hbig =>
      rw [if_pos hbig] at hm
      simp [UnpackedFloat.packedInfinity] at hm
    · next hsmall =>
      split at he
      · rw [UnpackedFloat.unpackExponent_packComponents] at he
        exact exponent_ne (Nat.not_le.1 hsmall) he
      · rw [UnpackedFloat.unpackExponent_packComponents] at he
        exact exponent_ne (Nat.one_lt_two_pow f.he.ne') he

theorem isNaN_roundWithAccuracy (s : UnpackedFloat.Sign) (m : Nat) (e : Int)
    (acc : UnpackedFloat.Accuracy) :
    (UnpackedFloat.roundWithAccuracy f s m e acc).isNaN = false := by
  simp only [UnpackedFloat.roundWithAccuracy]
  split <;> rfl

theorem isNaN_mul (ha : a.isNaN = false) (hb : isNonzero b = true) :
    (UnpackedFloat.mul f a b).isNaN = false := by
  cases b with
  | notANumber | infinity | zero => cases hb
  | finite =>
    cases a with
    | notANumber => cases ha
    | infinity | zero => rfl
    | finite => exact isNaN_roundWithAccuracy ..

theorem isNaN_div (ha : a.isNaN = false) (hb : isNonzero b = true) :
    (UnpackedFloat.div f a b).isNaN = false := by
  cases b with
  | notANumber | infinity | zero => cases hb
  | finite =>
    cases a with
    | notANumber => cases ha
    | infinity | zero => rfl
    | finite => exact isNaN_roundWithAccuracy ..

theorem isNaN_ofScientific (m : Nat) (e : Int) :
    (UnpackedFloat.ofScientific f m e).isNaN = false := by
  rw [UnpackedFloat.ofScientific]
  split
  · rfl
  split
  · rfl
  split
  · rfl
  split
  · exact isNaN_mul rfl rfl
  · exact isNaN_div rfl rfl

theorem isNaN_ofNat (n : Nat) : (UnpackedFloat.ofNat f n).isNaN = false := by
  rw [UnpackedFloat.ofNat, UnpackedFloat.ofInt, UnpackedFloat.normalize]
  split
  · exact isNaN_roundWithAccuracy ..
  · rfl
  · exact isNaN_roundWithAccuracy ..

theorem isNaN_neg (h : a.isNaN = false) : a.neg.isNaN = false := by
  cases a with
  | notANumber => cases h
  | infinity | zero | finite => rfl

end Unpacked

variable {x y : Float}

theorem isNaN_float_mul (hx : x.isNaN = false) (hy : isNonzero y.toModel.unpack = true) :
    (x * y).isNaN = false :=
  isNaN_unpack_pack (isNaN_mul hx hy)

theorem isNaN_float_div (hx : x.isNaN = false) (hy : isNonzero y.toModel.unpack = true) :
    (x / y).isNaN = false :=
  isNaN_unpack_pack (isNaN_div hx hy)

theorem isNaN_float_neg (hx : x.isNaN = false) : (-x).isNaN = false :=
  isNaN_unpack_pack (isNaN_neg hx)

theorem isNaN_float_ofNat (n : Nat) : (Float.ofNat n).isNaN = false := by
  change (Float.ofScientific n false 0).isNaN = false
  rw [Float.ofScientific]
  split
  · have hone : isNonzero (Float.ofBits 0x3ff0000000000000).toModel.unpack = true := by decide
    exact isNaN_float_mul (isNaN_unpack_pack (isNaN_ofNat _)) hone
  · exact isNaN_unpack_pack (isNaN_ofScientific _ _)

theorem isNaN_float_ofInt (n : Int) : (Float.ofInt n).isNaN = false := by
  cases n with
  | ofNat n => exact isNaN_float_ofNat n
  | negSucc n => exact isNaN_float_neg (isNaN_float_ofNat _)

theorem inUnit_clamp_of_isNaN (h : x.isNaN = false) : InUnit (clamp x) := by
  by_cases hfinite : x.isFinite = true
  · exact inUnit_clamp hfinite
  change x.toModel.unpack.isNaN = false at h
  change ¬x.toModel.unpack.isFinite = true at hfinite
  rw [clamp]
  cases hx : x.toModel.unpack with
  | notANumber => rw [hx] at h; cases h
  | zero | finite => rw [hx] at hfinite; exact absurd rfl hfinite
  | infinity s =>
    cases s with
    | negative =>
      have hlt : x < 0.0 := by
        rw [lt_iff_compare, hx]
        rfl
      rw [if_pos hlt]
      exact inUnit_zero
    | positive =>
      have hlt : 1.0 < x := by
        rw [lt_iff_compare, hx]
        rfl
      rw [if_pos hlt]
      split
      · exact inUnit_zero
      · exact inUnit_one

theorem clamp_of_isNaN (h : x.isNaN = true) : clamp x = x := by
  have hzero : ¬x < 0.0 := fun hlt => nomatch h.symm.trans (isNaN_of_lt hlt).1
  have hone : ¬1.0 < x := fun hlt => nomatch h.symm.trans (isNaN_of_lt hlt).2
  rw [clamp, if_neg hzero, if_neg hone]

theorem inUnit_clamp_iff : InUnit (clamp x) ↔ x.isNaN = false := by
  refine ⟨fun h => Bool.eq_false_iff.2 fun hn => ?_, inUnit_clamp_of_isNaN⟩
  rw [clamp_of_isNaN hn] at h
  exact Bool.eq_false_iff.1 (isNaN_of_isFinite h.isFinite) hn

end Deliberation.Number

namespace Deliberation.Json

open Deliberation.Number

theorem isNonzero_powerOfTen : ∀ n < 309, isNonzero (powerOfTen n).toModel.unpack = true := by
  decide +kernel

theorem isNaN_scaled? {n : Nat} {e : Int} {x : Float} (h : scaled? n e = some x) :
    x.isNaN = false := by
  rw [scaled?] at h
  dsimp only at h
  split at h
  · split at h
    · split at h
      · next hfinite =>
        cases h
        exact isNaN_of_isFinite hfinite
      · cases h
    · split at h
      · cases h
        exact isNaN_float_ofNat n
      · cases h
  · split at h
    · cases h
      exact isNaN_float_div (isNaN_float_ofNat n) (isNonzero_powerOfTen _ (by omega))
    · split at h
      · cases h
        have hfirst := isNaN_float_div (isNaN_float_ofNat n) (isNonzero_powerOfTen 308 (by omega))
        exact isNaN_float_div hfirst (isNonzero_powerOfTen _ (by omega))
      · cases h
        decide

theorem isNaN_real? {l : Literal} {x : Float} (h : l.real? = some x) : x.isNaN = false := by
  have hsigned : ∀ {o : Option Float}, (∀ y, o = some y → y.isNaN = false) →
      (o.bind fun y => some (if l.negative then -y else y)) = some x → x.isNaN = false := by
    intro o ho h
    obtain ⟨y, hy, h⟩ := Option.bind_eq_some_iff.1 h
    cases h
    split
    · exact isNaN_float_neg (ho y hy)
    · exact ho y hy
  rw [Literal.real?] at h
  dsimp only at h
  split at h
  · exact hsigned (fun y => isNaN_scaled?) h
  · split at h
    · exact hsigned (fun y => isNaN_scaled?) h
    · split at h
      · cases h
      · refine hsigned (fun y hy => ?_) h
        cases hy
        decide

theorem isNaN_number? {l : Literal} {m : Json.Number} (h : l.number? = some m) :
    m.toFloat.isNaN = false := by
  have hreal : l.real?.map Number.real = some m → m.toFloat.isNaN = false := by
    intro hm
    obtain ⟨x, hx, rfl⟩ := Option.map_eq_some_iff.1 hm
    exact isNaN_real? hx
  rw [Literal.number?] at h
  split at h
  · dsimp only at h
    split at h
    · split at h
      · cases h
        exact isNaN_float_ofInt _
      · exact hreal h
    · split at h
      · cases h
        exact isNaN_float_ofInt _
      · exact hreal h
  · exact hreal h

end Deliberation.Json
