import Deliberation.Text.Table.Alphanumeric
import Deliberation.Text.Table.Cased
import Deliberation.Text.Table.CaseIgnorable
import Deliberation.Text.Table.Lowercase

namespace Deliberation.Text

def inRanges (ranges : List (Nat × Nat)) (c : Char) : Bool :=
  ranges.any fun (lo, hi) => lo ≤ c.toNat && c.toNat ≤ hi

def isAlphanumeric (c : Char) : Bool :=
  if c.toNat < 128 then c.isAlphanum else inRanges alphanumericRanges c

def lowerIn : List (Nat × Nat × Nat × Int) → Nat → Nat
  | [], n => n
  | (lo, hi, stride, shift) :: rest, n =>
    if lo ≤ n && n ≤ hi && (n - lo) % stride == 0 then ((n : Int) + shift).toNat
    else lowerIn rest n

def lowerChar (c : Char) : List Char :=
  if c.toNat < 128 then [c.toLower]
  else if c.toNat = 0x130 then ['i', Char.ofNat 0x307]
  else [Char.ofNat (lowerIn lowercaseRuns c.toNat)]

def meetsCased : List Char → Bool
  | [] => false
  | c :: r => if inRanges caseIgnorableRanges c then meetsCased r else inRanges casedRanges c

/-- `before` holds the characters already passed, nearest first. A capital sigma that ends a
word becomes a final sigma. -/
def lowerFrom (before : List Char) : List Char → List Char
  | [] => []
  | c :: r =>
    if c.toNat = 0x3A3 then
      Char.ofNat (if meetsCased before && !meetsCased r then 0x3C2 else 0x3C3)
        :: lowerFrom (c :: before) r
    else lowerChar c ++ lowerFrom (c :: before) r

def lower (s : List Char) : List Char :=
  lowerFrom [] s

end Deliberation.Text
