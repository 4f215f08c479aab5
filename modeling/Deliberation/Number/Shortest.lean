import Deliberation.Number.Dyadic

namespace Deliberation.Number

structure Decimal where
  digits : Nat
  exponent : Int
  deriving DecidableEq, Repr

structure Interval where
  low : Nat
  value : Nat
  high : Nat
  closed : Bool
  exponent : Int
  deriving DecidableEq, Repr

def interval (x : Float) : Interval :=
  let m := magnitude x
  let below := if fraction x = 0 ∧ 1 < biasedExponent x then 1 else 2
  ⟨4 * m.mantissa - below, 4 * m.mantissa, 4 * m.mantissa + 2, m.mantissa % 2 == 0, m.exponent - 2⟩

def Interval.contains (i : Interval) (k : Int) (d : Nat) : Bool :=
  let (unit, grid) := scale 1 i.exponent (-k)
  if i.closed then i.low * unit ≤ d * grid && d * grid ≤ i.high * unit
  else i.low * unit < d * grid && d * grid < i.high * unit

def Interval.point? (i : Interval) (k : Int) : Option Nat :=
  let (unit, grid) := scale 1 i.exponent (-k)
  let d := i.value * unit / grid
  match i.contains k d, i.contains k (d + 1) with
  | true, true => some (roundHalfEven (i.value * unit) grid)
  | true, false => some d
  | false, true => some (d + 1)
  | false, false => none

def Interval.leadingPlace (i : Interval) : Int :=
  let estimate := ((i.value.log2 : Int) + i.exponent) * 30103 / 100000
  let reaches (k : Int) : Bool :=
    let (unit, grid) := scale 1 i.exponent (-k)
    grid ≤ i.value * unit
  if reaches (estimate + 1) then estimate + 1
  else if reaches estimate then estimate
  else estimate - 1

def Interval.search (i : Interval) (place : Int) : Nat → Nat → Decimal
  | 0, count => ⟨i.value, place - count⟩
  | fuel + 1, count =>
    match i.point? (place - count) with
    | some d => ⟨d, place - count⟩
    | none => i.search place fuel (count + 1)

def Decimal.strip : Nat → Decimal → Decimal
  | 0, d => d
  | fuel + 1, d =>
    if d.digits ≠ 0 ∧ d.digits % 10 = 0 then strip fuel ⟨d.digits / 10, d.exponent + 1⟩ else d

/-- The fewest digits that read back as the magnitude of a finite number other than zero. -/
def shortest (x : Float) : Decimal :=
  let i := interval x
  Decimal.strip 17 (i.search i.leadingPlace 17 0)

def zeros (n : Nat) : List Char :=
  List.replicate n '0'

def Decimal.render (d : Decimal) : List Char :=
  let ds := (Nat.repr d.digits).toList
  let point := (ds.length : Int) + d.exponent
  if -4 ≤ point ∧ point ≤ 16 then
    if 0 ≤ d.exponent then ds ++ zeros d.exponent.toNat ++ ['.', '0']
    else if 0 < point then ds.take point.toNat ++ '.' :: ds.drop point.toNat
    else '0' :: '.' :: zeros (-point).toNat ++ ds
  else
    let power := point - 1
    let head := match ds with
      | c :: r@(_ :: _) => c :: '.' :: r
      | short => short
    head ++ 'e' :: (if power < 0 then '-' else '+') :: (Nat.repr power.natAbs).toList

def renderFloat (x : Float) : List Char :=
  let body := if (magnitude x).mantissa = 0 then ['0', '.', '0'] else (shortest x).render
  if isNegative x then '-' :: body else body

end Deliberation.Number
