namespace Deliberation.Text.Utf8

inductive Progress where
  | ready
  | inside (value left low high : Nat)
  deriving DecidableEq, Repr

def lead (b : Nat) : List (Option Char) × Progress :=
  if b < 0x80 then ([some (Char.ofNat b)], .ready)
  else if b < 0xC2 then ([none], .ready)
  else if b < 0xE0 then ([], .inside (b - 0xC0) 0 0x80 0xBF)
  else if b = 0xE0 then ([], .inside 0 1 0xA0 0xBF)
  else if b = 0xED then ([], .inside 0xD 1 0x80 0x9F)
  else if b < 0xF0 then ([], .inside (b - 0xE0) 1 0x80 0xBF)
  else if b = 0xF0 then ([], .inside 0 2 0x90 0xBF)
  else if b < 0xF4 then ([], .inside (b - 0xF0) 2 0x80 0xBF)
  else if b = 0xF4 then ([], .inside 4 2 0x80 0x8F)
  else ([none], .ready)

/-- A byte that does not go on with a character ends it unread and is then read itself. -/
def feed (p : Progress) (b : Nat) : List (Option Char) × Progress :=
  match p with
  | .ready => lead b
  | .inside value left low high =>
    if low ≤ b ∧ b ≤ high then
      let value := 64 * value + (b - 0x80)
      match left with
      | 0 => ([some (Char.ofNat value)], .ready)
      | left + 1 => ([], .inside value left 0x80 0xBF)
    else
      let (out, p) := lead b
      (none :: out, p)

def decodeFrom : Progress → List UInt8 → List (Option Char)
  | .ready, [] => []
  | .inside _ _ _ _, [] => [none]
  | p, b :: r =>
    let (out, p) := feed p b.toNat
    out ++ decodeFrom p r

def decode (bytes : List UInt8) : List (Option Char) :=
  decodeFrom .ready bytes

def lossy (bytes : List UInt8) : String :=
  String.ofList ((decode bytes).map fun c => c.getD (Char.ofNat 0xFFFD))

end Deliberation.Text.Utf8
