import Deliberation.Json.Literal
import Deliberation.Text.Escape

namespace Deliberation.Json

/-- A string whose escapes do not pair up to characters has no content, and a number out of
range has no value; both are tokens all the same. -/
inductive Token where
  | openBrace
  | closeBrace
  | openBracket
  | closeBracket
  | colon
  | comma
  | null
  | bool (b : Bool)
  | number (n : Option Number)
  | string (s : Option String)
  deriving Repr, Inhabited

def joinUnits : List Nat → Option (List Char)
  | [] => some []
  | n :: r =>
    if 0xD800 ≤ n ∧ n < 0xDC00 then
      match r with
      | m :: r =>
        if 0xDC00 ≤ m ∧ m < 0xE000 then
          (joinUnits r).map (Char.ofNat (0x10000 + (n - 0xD800) * 0x400 + (m - 0xDC00)) :: ·)
        else none
      | [] => none
    else if 0xDC00 ≤ n ∧ n < 0xE000 then none
    else (joinUnits r).map (Char.ofNat n :: ·)

theorem joinUnits_chars (s : List Char) : joinUnits (s.map Char.toNat) = some s := by
  induction s with
  | nil => rfl
  | cons c r ih =>
    have hv : c.toNat < 0xD800 ∨ 0xDFFF < c.toNat := by
      rcases c.valid with h | h
      · exact Or.inl h
      · exact Or.inr h.1
    have h1 : ¬(0xD800 ≤ c.toNat ∧ c.toNat < 0xDC00) := by omega
    have h2 : ¬(0xDC00 ≤ c.toNat ∧ c.toNat < 0xE000) := by omega
    rw [List.map_cons, joinUnits.eq_def]
    simp [h1, h2, ih]

def isSpace (c : Char) : Bool :=
  c = ' ' || c = '\t' || c = '\n' || c = '\r'

def isNumberChar (c : Char) : Bool :=
  Number.isDigit c || c = '-' || c = '+' || c = '.' || c = 'e' || c = 'E'

def isWordChar (c : Char) : Bool :=
  'a' ≤ c && c ≤ 'z'

def mark? (c : Char) : Option Token :=
  if c = '\x7b' then some .openBrace
  else if c = '\x7d' then some .closeBrace
  else if c = '[' then some .openBracket
  else if c = ']' then some .closeBracket
  else if c = ':' then some .colon
  else if c = ',' then some .comma
  else none

def word? (w : List Char) : Option Token :=
  if w = ['n', 'u', 'l', 'l'] then some .null
  else if w = ['t', 'r', 'u', 'e'] then some (.bool true)
  else if w = ['f', 'a', 'l', 's', 'e'] then some (.bool false)
  else none

def numberToken? (s : List Char) : Option Token :=
  (Literal.read? s).map fun l => .number l.number?

def unescape? (c : Char) : Option Char :=
  if c = '"' ∨ c = '\\' ∨ c = '/' then some c
  else if c = 'b' then some (Char.ofNat 8)
  else if c = 'f' then some (Char.ofNat 12)
  else if c = 'n' then some '\n'
  else if c = 'r' then some '\r'
  else if c = 't' then some '\t'
  else none

def hexValue? (c : Char) : Option Nat :=
  if '0' ≤ c ∧ c ≤ '9' then some (c.toNat - 48)
  else if 'a' ≤ c ∧ c ≤ 'f' then some (c.toNat - 87)
  else if 'A' ≤ c ∧ c ≤ 'F' then some (c.toNat - 55)
  else none

inductive Mode where
  | between
  | number (read : List Char)
  | word (read : List Char)
  | string (units : List Nat)
  | escape (units : List Nat)
  | hex (units : List Nat) (value : Nat) (left : Nat)
  deriving DecidableEq, Repr

structure Scan where
  mode : Mode
  tokens : List Token

def Scan.start : Scan :=
  ⟨.between, []⟩

def Scan.open? (tokens : List Token) (c : Char) : Option Scan :=
  if isSpace c then some ⟨.between, tokens⟩
  else if c = '"' then some ⟨.string [], tokens⟩
  else if isWordChar c then some ⟨.word [c], tokens⟩
  else if isNumberChar c then some ⟨.number [c], tokens⟩
  else (mark? c).map fun t => ⟨.between, t :: tokens⟩

def Scan.step (s : Scan) (c : Char) : Option Scan :=
  match s.mode with
  | .between => Scan.open? s.tokens c
  | .number read =>
    if isNumberChar c then some ⟨.number (c :: read), s.tokens⟩
    else (numberToken? read.reverse).bind fun t => Scan.open? (t :: s.tokens) c
  | .word read =>
    if isWordChar c then some ⟨.word (c :: read), s.tokens⟩
    else (word? read.reverse).bind fun t => Scan.open? (t :: s.tokens) c
  | .string units =>
    if c = '"' then
      some ⟨.between, .string ((joinUnits units.reverse).map String.ofList) :: s.tokens⟩
    else if c = '\\' then some ⟨.escape units, s.tokens⟩
    else if c.toNat < 0x20 then none
    else some ⟨.string (c.toNat :: units), s.tokens⟩
  | .escape units =>
    if c = 'u' then some ⟨.hex units 0 3, s.tokens⟩
    else (unescape? c).map fun d => ⟨.string (d.toNat :: units), s.tokens⟩
  | .hex units value left =>
    (hexValue? c).map fun d =>
      match left with
      | 0 => ⟨.string ((16 * value + d) :: units), s.tokens⟩
      | left + 1 => ⟨.hex units (16 * value + d) left, s.tokens⟩

def Scan.finish (s : Scan) : Option (List Token) :=
  match s.mode with
  | .between => some s.tokens.reverse
  | .number read => (numberToken? read.reverse).map fun t => (t :: s.tokens).reverse
  | .word read => (word? read.reverse).map fun t => (t :: s.tokens).reverse
  | _ => none

def tokens? (s : List Char) : Option (List Token) :=
  (s.foldlM Scan.step Scan.start).bind Scan.finish

end Deliberation.Json
