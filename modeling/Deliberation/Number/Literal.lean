namespace Deliberation.Number

def digitValue? (c : Char) : Option Nat :=
  if 48 ≤ c.toNat ∧ c.toNat ≤ 57 then some (c.toNat - 48) else none

def isDigit (c : Char) : Bool :=
  (digitValue? c).isSome

def valueOf (ds : List Char) : Nat :=
  ds.foldl (fun n c => 10 * n + (digitValue? c).getD 0) 0

def splitDigits (s : List Char) : List Char × List Char :=
  s.span isDigit

def readCount? (bound : Nat) (s : List Char) : Option Nat :=
  let ds := match s with
    | '+' :: r => r
    | _ => s
  if ds.isEmpty || !ds.all isDigit then none
  else
    let n := valueOf ds
    if n < bound then some n else none

def infinity : Float :=
  Float.ofBits 0x7ff0000000000000

def notANumber : Float :=
  Float.ofBits 0x7ff8000000000000

def nearest (digits : Nat) (exponent : Int) : Float :=
  if digits = 0 then 0.0
  else
    let place := (Nat.repr digits).length + exponent
    if 400 < place then infinity
    else if place < -400 then 0.0
    else Float.ofScientific digits (exponent < 0) exponent.natAbs

def readExponent? : List Char → Option Int
  | [] => some 0
  | c :: r =>
    if c = 'e' ∨ c = 'E' then
      let (negative, ds) := match r with
        | '+' :: ds => (false, ds)
        | '-' :: ds => (true, ds)
        | ds => (false, ds)
      if ds.isEmpty || !ds.all isDigit then none
      else some (if negative then -(valueOf ds : Int) else (valueOf ds : Int))
    else none

def readMagnitude? (s : List Char) : Option Float :=
  let word := s.map Char.toLower
  if word = "inf".toList ∨ word = "infinity".toList then some infinity
  else if word = "nan".toList then some notANumber
  else
    let (whole, r) := splitDigits s
    let (part, r) := match r with
      | '.' :: r => splitDigits r
      | _ => ([], r)
    if whole.isEmpty && part.isEmpty then none
    else (readExponent? r).map fun e => nearest (valueOf (whole ++ part)) (e - part.length)

def readFloat? (s : List Char) : Option Float :=
  match s with
  | '-' :: r => (readMagnitude? r).map (- ·)
  | '+' :: r => readMagnitude? r
  | _ => readMagnitude? s

end Deliberation.Number
