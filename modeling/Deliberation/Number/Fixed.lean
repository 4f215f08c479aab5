import Deliberation.Number.Dyadic

namespace Deliberation.Number

def renderHundredths (n : Nat) : String :=
  let cents := n % 100
  Nat.repr (n / 100) ++ "." ++ (if cents < 10 then "0" else "") ++ Nat.repr cents

def twoPlaces (x : Float) : String :=
  if x.isNaN then "NaN"
  else
    let sign := if isNegative x then "-" else ""
    if x.isFinite then
      let m := magnitude x
      let (num, den) := scale (100 * m.mantissa) m.exponent 0
      sign ++ renderHundredths (roundHalfEven num den)
    else sign ++ "inf"

end Deliberation.Number
