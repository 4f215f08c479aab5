import Deliberation.Number.Literal
import Deliberation.Number.Word

namespace Deliberation

inductive Json.Number where
  | int (n : Int)
  | real (x : Float)
  deriving Repr, Inhabited

namespace Json

open Deliberation.Number

structure Literal where
  negative : Bool
  whole : List Char
  part : Option (List Char)
  power : Option (Bool × List Char)
  deriving DecidableEq, Repr

def nonempty (ds : List Char) : Option (List Char) :=
  if ds.isEmpty then none else some ds

def readWhole? (s : List Char) : Option (List Char × List Char) :=
  match s with
  | '0' :: r => some (['0'], r)
  | _ =>
    let (ds, r) := splitDigits s
    (nonempty ds).map (·, r)

def readPart? : List Char → Option (Option (List Char) × List Char)
  | '.' :: r =>
    let (ds, r) := splitDigits r
    (nonempty ds).map fun ds => (some ds, r)
  | r => some (none, r)

def readPower? : List Char → Option (Option (Bool × List Char))
  | [] => some none
  | c :: r =>
    if c = 'e' ∨ c = 'E' then
      let (negative, ds) := match r with
        | '+' :: ds => (false, ds)
        | '-' :: ds => (true, ds)
        | ds => (false, ds)
      if ds.all isDigit then (nonempty ds).map fun ds => some (negative, ds) else none
    else none

def Literal.read? (s : List Char) : Option Literal := do
  let (negative, r) := match s with
    | '-' :: r => (true, r)
    | r => (false, r)
  let (whole, r) ← readWhole? r
  let (part, r) ← readPart? r
  let power ← readPower? r
  return ⟨negative, whole, part, power⟩

def accumulate (n : Nat) : List Char → Nat × Nat
  | [] => (n, 0)
  | c :: r =>
    let n' := 10 * n + (digitValue? c).getD 0
    if n' < Number.wordBound then accumulate n' r else (n, r.length + 1)

def powerOfTen (n : Nat) : Float :=
  Float.ofScientific 1 false n

/-- `n * 10 ^ e`, with one rounding for the significand and one for the scaling; below the
smallest power of ten the scaling takes two steps. -/
def scaled? (n : Nat) (e : Int) : Option Float :=
  let x := Float.ofNat n
  if 0 ≤ e then
    if e ≤ 308 then
      let y := x * powerOfTen e.toNat
      if y.isFinite then some y else none
    else if n = 0 then some x else none
  else if -308 ≤ e then some (x / powerOfTen (-e).toNat)
  else if -616 ≤ e then some (x / powerOfTen 308 / powerOfTen (-e - 308).toNat)
  else some 0.0

def powerBound : Nat := 2147483648

def Literal.real? (l : Literal) : Option Float := do
  let (n, spare) := accumulate 0 l.whole
  let part := l.part.getD []
  let (n, dropped) := accumulate n part
  let e : Int := spare - (part.length - dropped : Nat)
  let x ← match l.power with
    | none => scaled? n e
    | some (negative, ds) =>
      let p := valueOf ds
      if p < powerBound then scaled? n (if negative then e - p else e + p)
      else if n ≠ 0 ∧ negative = false then none
      else some 0.0
  return if l.negative then -x else x

/-- Whole numbers of 64 bits, signed or not, stay exact; minus zero and all others become
doubles, and those out of the range of doubles are refused. -/
def Literal.number? (l : Literal) : Option Number :=
  if l.part.isNone ∧ l.power.isNone then
    let n := valueOf l.whole
    if l.negative then
      if n ≠ 0 ∧ n ≤ Number.signBound then some (.int (-(n : Int))) else l.real?.map .real
    else if n < Number.wordBound then some (.int n)
    else l.real?.map .real
  else l.real?.map .real

end Json

end Deliberation
