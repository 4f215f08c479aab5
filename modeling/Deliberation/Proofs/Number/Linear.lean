import Deliberation.Number.Dyadic
import Deliberation.Proofs.Number.Order
import Mathlib

namespace Deliberation.Number

open Float.Model
open UnpackedFloat (unpackExponent unpackMantissa unpackSign)

def place : UnpackedFloat → Int ×ₗ Int ×ₗ Int
  | .infinity .negative => toLex (-2, toLex (0, 0))
  | .finite .negative m e _ => toLex (-1, toLex (-e, -(m : Int)))
  | .finite .positive m e _ => toLex (1, toLex (e, (m : Int)))
  | .infinity .positive => toLex (2, toLex (0, 0))
  | _ => toLex (0, toLex (0, 0))

section Order

theorem compare_then_eq_lt {m n : Nat} {d e : Int} :
    (compare d e).then (compare m n) = .lt ↔ d < e ∨ d = e ∧ m < n := by
  rw [Ordering.then_eq_lt, compare_lt_iff_lt, compare_eq_iff_eq, compare_lt_iff_lt]

theorem compare_then_eq_gt {m n : Nat} {d e : Int} :
    (compare d e).then (compare m n) = .gt ↔ e < d ∨ d = e ∧ n < m := by
  rw [Ordering.then_eq_gt, compare_gt_iff_gt, compare_eq_iff_eq, compare_gt_iff_gt]

theorem compare_eq_lt_iff {a b : UnpackedFloat} (ha : a.isNaN = false) (hb : b.isNaN = false) :
    a.compare b = some .lt ↔ place a < place b := by
  cases a with
  | notANumber => cases ha
  | infinity s =>
    cases s <;> cases b with
    | notANumber => cases hb
    | infinity t => cases t <;> decide
    | zero t => simp [UnpackedFloat.compare, place, Prod.Lex.toLex_lt_toLex]
    | finite t => cases t <;> simp [UnpackedFloat.compare, place, Prod.Lex.toLex_lt_toLex]
  | zero s =>
    cases b with
    | notANumber => cases hb
    | infinity t => cases t <;> simp [UnpackedFloat.compare, place, Prod.Lex.toLex_lt_toLex]
    | zero t => simp [UnpackedFloat.compare, place]
    | finite t => cases t <;> simp [UnpackedFloat.compare, place, Prod.Lex.toLex_lt_toLex]
  | finite s m d =>
    cases s <;> cases b with
    | notANumber => cases hb
    | infinity t => cases t <;> simp [UnpackedFloat.compare, place, Prod.Lex.toLex_lt_toLex]
    | zero t => simp [UnpackedFloat.compare, place, Prod.Lex.toLex_lt_toLex]
    | finite t n e =>
      cases t <;> simp [UnpackedFloat.compare, place, Prod.Lex.toLex_lt_toLex,
        compare_then_eq_lt, compare_then_eq_gt]

variable {x y z : Float}

theorem lt_iff_place (hx : x.isNaN = false) (hy : y.isNaN = false) :
    x < y ↔ place x.toModel.unpack < place y.toModel.unpack :=
  (lt_iff_compare x y).trans (compare_eq_lt_iff hx hy)

theorem le_iff_place (hx : x.isNaN = false) (hy : y.isNaN = false) :
    x ≤ y ↔ place x.toModel.unpack ≤ place y.toModel.unpack := by
  rw [← not_lt, ← lt_iff_place hy hx]
  exact ⟨not_lt_of_le, le_of_not_lt hy hx⟩

theorem beq_iff_le_and_le : (x == y) = true ↔ x ≤ y ∧ y ≤ x := by
  have hbeq : (x == y) = true ↔ x.toModel.unpack.compare y.toModel.unpack = some .eq := by
    change (x.toModel.unpack.compare y.toModel.unpack == some .eq) = true ↔ _
    rw [beq_iff_eq]
  rw [hbeq, le_iff_compare, le_iff_compare, compare_swap x.toModel.unpack]
  cases x.toModel.unpack.compare y.toModel.unpack with
  | none => simp
  | some o => cases o <;> simp

theorem isNaN_of_compare {a b : UnpackedFloat} {o : Ordering} (h : a.compare b = some o) :
    a.isNaN = false ∧ b.isNaN = false := by
  cases a <;> cases b <;> simp_all [UnpackedFloat.isNaN, UnpackedFloat.compare]

theorem isNaN_of_le (h : x ≤ y) : x.isNaN = false ∧ y.isNaN = false := by
  obtain ⟨_, h, -⟩ := (le_iff_compare x y).1 h
  exact isNaN_of_compare h

theorem isNaN_of_lt (h : x < y) : x.isNaN = false ∧ y.isNaN = false :=
  isNaN_of_compare ((lt_iff_compare x y).1 h)

theorem lt_of_le_of_lt (hxy : x ≤ y) (hyz : y < z) : x < z := by
  obtain ⟨hx, hy⟩ := isNaN_of_le hxy
  obtain ⟨-, hz⟩ := isNaN_of_lt hyz
  rw [lt_iff_place hx hz]
  exact ((le_iff_place hx hy).1 hxy).trans_lt ((lt_iff_place hy hz).1 hyz)

end Order

section Bits

theorem toNat_mantissa (b : BitVec Format.binary64.numBits) :
    (unpackMantissa b).toNat = b.toNat % hiddenBit := by
  simp [unpackMantissa, hiddenBit]

theorem toNat_exponent (b : BitVec Format.binary64.numBits) :
    (unpackExponent b).toNat = b.toNat / hiddenBit % 2048 := by
  simp [unpackExponent, Nat.shiftRight_eq_div_pow, hiddenBit]

theorem toNat_exponent_of_lt {b : BitVec Format.binary64.numBits} (h : b.toNat < signBound) :
    (unpackExponent b).toNat = b.toNat / hiddenBit := by
  rw [toNat_exponent, Nat.mod_eq_of_lt]
  rw [signBound] at h
  rw [hiddenBit]
  omega

theorem toNat_sign (b : BitVec Format.binary64.numBits) :
    (unpackSign b).toNat = b.toNat / signBound % 2 := by
  simp [unpackSign, Nat.shiftRight_eq_div_pow, signBound]

variable {b : BitVec Format.binary64.numBits}

theorem sign_of_lt (h : b.toNat < signBound) :
    UnpackedFloat.Sign.ofBitVec (unpackSign b) = .positive := by
  have hz : unpackSign b = 0#1 := by
    rw [← BitVec.toNat_inj, toNat_sign, Nat.div_eq_of_lt h]
    rfl
  rw [hz]
  rfl

theorem sign_of_le (h : signBound ≤ b.toNat) :
    UnpackedFloat.Sign.ofBitVec (unpackSign b) = .negative := by
  have hz : unpackSign b = 1#1 := by
    rw [← BitVec.toNat_inj, toNat_sign]
    have hb : b.toNat < wordBound := b.isLt
    rw [← two_mul_signBound] at hb
    rw [Nat.div_eq_of_lt_le (k := 1) (by omega) (by omega)]
    rfl
  rw [hz]
  rfl

def binade (n : Nat) : Nat :=
  max 1 (n / hiddenBit)

def placeOfBits (n : Nat) : Int ×ₗ Int ×ₗ Int :=
  if n = 0 then toLex (0, toLex (0, 0))
  else toLex (1, toLex ((binade n : Int) - 1075, (n : Int) - (binade n - 1) * hiddenBit))

theorem placeOfBits_mono {m n : Nat} (h : m ≤ n) : placeOfBits m ≤ placeOfBits n := by
  rw [placeOfBits, placeOfBits]
  by_cases hm : m = 0
  · rw [if_pos hm]
    split
    · exact le_rfl
    · simp [Prod.Lex.toLex_le_toLex]
  · have hn : n ≠ 0 := by omega
    have hk : binade m ≤ binade n := max_le_max_left 1 (Nat.div_le_div_right h)
    rw [if_neg hm, if_neg hn]
    simp only [Prod.Lex.toLex_le_toLex]
    rcases hk.lt_or_eq with hk | hk
    · exact .inr ⟨trivial, .inl (by omega)⟩
    · rw [hk]
      exact .inr ⟨trivial, .inr ⟨rfl, by omega⟩⟩

theorem placeOfBits_strictMono : StrictMono placeOfBits := by
  intro m n h
  refine lt_of_le_of_ne (placeOfBits_mono h.le) fun he => ?_
  rw [placeOfBits, placeOfBits, if_neg (by omega : n ≠ 0)] at he
  split at he
  · exact absurd (congrArg (fun p => (ofLex p).1) he) (by simp)
  · have hb := congrArg (fun p => (ofLex (ofLex p).2)) he
    simp only [ofLex_toLex, Prod.mk.injEq] at hb
    obtain ⟨hk, hr⟩ := hb
    have hk : binade m = binade n := by omega
    rw [hk] at hr
    omega

theorem toNat_one_append (v : BitVec 52) : (1#1 ++ v).toNat = hiddenBit + v.toNat := by
  rw [BitVec.toNat_append, ← Nat.shiftLeft_add_eq_or_of_lt v.isLt]
  rfl

theorem place_of_lt (h : b.toNat < signBound)
    (hn : (UnpackedFloat.unpack .binary64 b).isFinite = true) :
    place (UnpackedFloat.unpack .binary64 b) = placeOfBits b.toNat := by
  have hs := sign_of_lt h
  have he := toNat_exponent_of_lt h
  have hb := Nat.div_add_mod b.toNat hiddenBit
  rw [← he, ← toNat_mantissa] at hb
  rw [placeOfBits, binade, ← he]
  revert hn
  fun_cases UnpackedFloat.unpack .binary64 b with
  | case1 => exact fun hn => nomatch hn
  | case2 => exact fun hn => nomatch hn
  | case3 _ _ _ _ _ hez hmz =>
    intro _
    have hz : b.toNat = 0 := by
      rw [← hb, show unpackExponent b = 0 from hez, show unpackMantissa b = 0 from hmz]
      rfl
    rw [if_pos hz]
    rfl
  | case4 _ _ _ _ sign _ hez hmz =>
    intro _
    have hez' : (unpackExponent b).toNat = 0 := congrArg BitVec.toNat hez
    have hmz' : (unpackMantissa b).toNat ≠ 0 := fun h => hmz (BitVec.toNat_inj.1 h)
    have hz : b.toNat ≠ 0 := by omega
    rw [if_neg hz, show sign = .positive from hs]
    refine congrArg toLex (Prod.ext rfl (congrArg toLex (Prod.ext ?_ ?_)))
    -- the bias of the exponent, and the width of the fraction
    · change ((unpackExponent b).toNat : Int) - (1023 + 52) + 1 = _
      omega
    · change ((unpackMantissa b).toNat : Int) = _
      rw [← hb, hez']
      simp
  | case5 _ _ _ _ sign _ hez =>
    intro _
    have hez' : (unpackExponent b).toNat ≠ 0 := fun h => hez (BitVec.toNat_inj.1 h)
    have hmax : max 1 (unpackExponent b).toNat = (unpackExponent b).toNat := by omega
    have hz : b.toNat ≠ 0 := by
      rw [hiddenBit] at he
      omega
    rw [if_neg hz, show sign = .positive from hs]
    refine congrArg toLex (Prod.ext rfl (congrArg toLex (Prod.ext ?_ ?_)))
    · change ((unpackExponent b).toNat : Int) - (1023 + 52) = _
      omega
    · change ((1#1 ++ unpackMantissa b).toNat : Int) = _
      rw [toNat_one_append, hmax, ← hb]
      push_cast
      ring

theorem place_of_le (h : signBound ≤ b.toNat) :
    place (UnpackedFloat.unpack .binary64 b) ≤ toLex (0, toLex (0, 0)) := by
  have hs := sign_of_le h
  fun_cases UnpackedFloat.unpack .binary64 b with
  | case1 _ _ _ sign =>
    rw [show sign = .negative from hs]
    decide
  | case2 => exact le_rfl
  | case3 => exact le_rfl
  | case4 _ _ _ _ sign =>
    rw [show sign = .negative from hs]
    simp [place, Prod.Lex.toLex_le_toLex]
  | case5 _ _ _ _ sign =>
    rw [show sign = .negative from hs]
    simp [place, Prod.Lex.toLex_le_toLex]

theorem place_lt_zero (h : signBound < b.toNat)
    (hn : (UnpackedFloat.unpack .binary64 b).isNaN = false) :
    place (UnpackedFloat.unpack .binary64 b) < toLex (0, toLex (0, 0)) := by
  have hs := sign_of_le h.le
  revert hn
  fun_cases UnpackedFloat.unpack .binary64 b with
  | case1 _ _ _ sign =>
    intro _
    rw [show sign = .negative from hs]
    decide
  | case2 => exact fun hn => nomatch hn
  | case3 _ _ _ _ _ hez hmz =>
    have he : (unpackExponent b).toNat = 0 := congrArg BitVec.toNat hez
    have hm : (unpackMantissa b).toNat = 0 := congrArg BitVec.toNat hmz
    have hb : b.toNat < wordBound := b.isLt
    rw [toNat_exponent, hiddenBit] at he
    rw [toNat_mantissa, hiddenBit] at hm
    rw [signBound] at h
    rw [wordBound] at hb
    omega
  | case4 _ _ _ _ sign =>
    intro _
    rw [show sign = .negative from hs]
    simp [place, Prod.Lex.toLex_lt_toLex]
  | case5 _ _ _ _ sign =>
    intro _
    rw [show sign = .negative from hs]
    simp [place, Prod.Lex.toLex_lt_toLex]

-- What is not a number has many encodings, but only one of them is kept.
theorem unpack_of_not_valid (h : ¬ Format.binary64.Valid b) :
    UnpackedFloat.unpack .binary64 b = .notANumber := by
  fun_cases UnpackedFloat.unpack .binary64 b with
  | case1 _ _ _ _ _ hm => exact absurd ⟨fun _ h => absurd hm h⟩ h
  | case2 => rfl
  | case3 _ _ _ _ he => exact absurd ⟨fun h => absurd h he⟩ h
  | case4 _ _ _ _ _ he => exact absurd ⟨fun h => absurd h he⟩ h
  | case5 _ _ _ _ _ he => exact absurd ⟨fun h => absurd h he⟩ h

theorem unpack_ofBits (n : UInt64) :
    (Float.ofBits n).toModel.unpack = UnpackedFloat.unpack .binary64 n.toBitVec := by
  change UnpackedFloat.unpack .binary64 (UnpackedFloat.pack .binary64
    (UnpackedFloat.unpack .binary64 n.toBitVec)) = _
  by_cases hv : Format.binary64.Valid n.toBitVec
  · rw [UnpackedFloat.pack_unpack_of_valid hv (by decide)]
  · rw [unpack_of_not_valid hv]
    rfl

theorem toBits_ofBits {n : UInt64} (h : (Float.ofBits n).isFinite = true) :
    (Float.ofBits n).toBits = n := by
  have hv : Format.binary64.Valid n.toBitVec := by
    by_contra hv
    change (Float.ofBits n).toModel.unpack.isFinite = true at h
    rw [unpack_ofBits, unpack_of_not_valid hv] at h
    cases h
  refine UInt64.eq_of_toBitVec_eq ?_
  change UnpackedFloat.pack .binary64 (UnpackedFloat.unpack .binary64 n.toBitVec) = _
  rw [UnpackedFloat.pack_unpack_of_valid hv (by decide)]

end Bits

end Deliberation.Number
