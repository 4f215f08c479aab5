import Deliberation.Number.Word

namespace Deliberation.Number

structure Dyadic where
  mantissa : Nat
  exponent : Int
  deriving DecidableEq, Repr

def hiddenBit : Nat := 4503599627370496

def isNegative (x : Float) : Bool :=
  x.toBits.toNat / signBound == 1

def biasedExponent (x : Float) : Nat :=
  x.toBits.toNat / hiddenBit % 2048

def fraction (x : Float) : Nat :=
  x.toBits.toNat % hiddenBit

def magnitude (x : Float) : Dyadic :=
  if biasedExponent x = 0 then ⟨fraction x, -1074⟩
  else ⟨hiddenBit + fraction x, (biasedExponent x : Int) - 1075⟩

def scale (numerator : Nat) (twos tens : Int) : Nat × Nat :=
  (numerator * Nat.pow 2 twos.toNat * Nat.pow 10 tens.toNat,
    Nat.pow 2 (-twos).toNat * Nat.pow 10 (-tens).toNat)

def roundHalfEven (num den : Nat) : Nat :=
  let q := num / den
  let twice := 2 * (num % den)
  if twice < den then q
  else if den < twice then q + 1
  else q + q % 2

end Deliberation.Number
