import Deliberation.Number.Word

namespace Deliberation.Search

/-- A double, kept by its bits: scores are ranked by sign and payload even where they are not
numbers. -/
structure Score where
  bits : UInt64
  deriving DecidableEq, Repr, Inhabited

namespace Score

def ofFloat (x : Float) : Score :=
  ⟨x.toBits⟩

def value (s : Score) : Float :=
  Float.ofBits s.bits

def rank (s : Score) : Int :=
  let n := s.bits.toNat
  if n < Number.signBound then n else Number.signBound - 1 - (n : Int)

def clamped (s : Score) : Score :=
  if s.value < 0.0 then ofFloat 0.0
  else if 1.0 < s.value then ofFloat 1.0
  else s

end Score

end Deliberation.Search
