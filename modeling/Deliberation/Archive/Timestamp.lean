import Deliberation.Json.Record
import Deliberation.Text.Blank

namespace Deliberation.Archive

structure Date where
  year : Int
  month : Nat
  day : Nat
  deriving DecidableEq, Repr, Inhabited

namespace Date

def isLeap (year : Int) : Bool :=
  year % 4 == 0 && (year % 100 != 0 || year % 400 == 0)

def daysIn (year : Int) (month : Nat) : Nat :=
  if month = 2 then if isLeap year then 29 else 28
  else if month = 4 ∨ month = 6 ∨ month = 9 ∨ month = 11 then 30
  else 31

def valid (d : Date) : Bool :=
  1 ≤ d.month && d.month ≤ 12 && 1 ≤ d.day && d.day ≤ daysIn d.year d.month &&
    -262143 ≤ d.year && d.year ≤ 262142

def next (d : Date) : Date :=
  if d.day < daysIn d.year d.month then ⟨d.year, d.month, d.day + 1⟩
  else if d.month < 12 then ⟨d.year, d.month + 1, 1⟩
  else ⟨d.year + 1, 1, 1⟩

def previous (d : Date) : Date :=
  if 1 < d.day then ⟨d.year, d.month, d.day - 1⟩
  else if 1 < d.month then ⟨d.year, d.month - 1, daysIn d.year (d.month - 1)⟩
  else ⟨d.year - 1, 12, 31⟩

end Date

structure Timestamp where
  date : Date
  minute : Nat
  second : Nat
  nanos : Nat
  deriving DecidableEq, Repr, Inhabited

namespace Timestamp

def padded (width n : Nat) : List Char :=
  let ds := (Nat.repr n).toList
  List.replicate (width - ds.length) '0' ++ ds

def renderYear (year : Int) : List Char :=
  if 0 ≤ year ∧ year ≤ 9999 then padded 4 year.toNat
  else (if year < 0 then '-' else '+') :: padded 4 year.natAbs

def renderFraction (nanos : Nat) : List Char :=
  if nanos = 0 then []
  else if nanos % 1000000 = 0 then '.' :: padded 3 (nanos / 1000000)
  else if nanos % 1000 = 0 then '.' :: padded 6 (nanos / 1000)
  else '.' :: padded 9 nanos

def render (t : Timestamp) : String :=
  String.ofList (renderYear t.date.year ++ '-' :: padded 2 t.date.month ++ '-' ::
    padded 2 t.date.day ++ 'T' :: padded 2 (t.minute / 60) ++ ':' :: padded 2 (t.minute % 60) ++
    ':' :: padded 2 t.second ++ renderFraction t.nanos ++ ['Z'])

open Number Text

def digits? (max : Nat) (s : List Char) : Option (List Char × List Char) :=
  let ds := (s.take max).takeWhile isDigit
  if ds.isEmpty then none else some (ds, s.drop ds.length)

def part? (max : Nat) (s : List Char) : Option (Nat × List Char) :=
  (digits? max (trimLeft s)).map fun (ds, r) => (valueOf ds, r)

def mark? (c : Char) (s : List Char) : Option (List Char) :=
  match trimLeft s with
  | d :: r => if d = c then some r else none
  | [] => none

def year? (s : List Char) : Option (Int × List Char) :=
  match trimLeft s with
  | '-' :: r => (digits? r.length r).map fun (ds, r) => (-(valueOf ds : Int), r)
  | '+' :: r => (digits? r.length r).map fun (ds, r) => ((valueOf ds : Int), r)
  | s => (digits? 4 s).map fun (ds, r) => ((valueOf ds : Int), r)

def date? (s : List Char) : Option (Date × List Char) := do
  let (year, s) ← year? s
  let (month, s) ← part? 2 (← mark? '-' s)
  let (day, s) ← part? 2 (← mark? '-' s)
  let d : Date := ⟨year, month, day⟩
  if d.valid then some (d, s) else none

def fraction? : List Char → Option (Nat × List Char)
  | '.' :: s =>
    (digits? 9 s).map fun (ds, r) => (valueOf ds * Nat.pow 10 (9 - ds.length), r.dropWhile isDigit)
  | s => some (0, s)

def twoDigits? : List Char → Option (Nat × List Char)
  | a :: b :: r => if isDigit a && isDigit b then some (valueOf [a, b], r) else none
  | _ => none

def isUniversal (s : List Char) : Bool :=
  (s.take 3).map Char.toLower == ['u', 't', 'c']

def sign? : List Char → Option (Int × List Char)
  | c :: r =>
    if c = '+' then some (1, r)
    else if c = '-' ∨ c.toNat = 0x2212 then some (-1, r)
    else none
  | [] => none

def offset? (s : List Char) : Option (Int × List Char) :=
  if isUniversal s then some (0, s.drop 3)
  else match s with
    | 'Z' :: r => some (0, r)
    | 'z' :: r => some (0, r)
    | s => do
      let (sign, s) ← sign? s
      let (hours, s) ← twoDigits? s
      let (minutes, s) ← twoDigits? (s.dropWhile fun c => c = ':' || isBlank c)
      if hours < 24 ∧ minutes < 60 then some (sign * (60 * hours + minutes), s) else none

def shift (d : Date) (minute : Nat) (offset : Int) : Date × Nat :=
  let m := (minute : Int) - offset
  if m < 0 then (d.previous, (m + 1440).toNat)
  else if 1440 ≤ m then (d.next, (m - 1440).toNat)
  else (d, m.toNat)

def read? (s : List Char) : Option Timestamp := do
  let (d, s) ← date? s
  let s ← match s with
    | c :: r => if c = 't' ∨ c = 'T' ∨ c = ' ' then some r else none
    | [] => none
  let (hour, s) ← part? 2 s
  let (minute, s) ← part? 2 (← mark? ':' s)
  let (second, s) ← part? 2 (← mark? ':' s)
  let (nanos, s) ← fraction? s
  let (offset, s) ← offset? (trimLeft s)
  if hour < 24 ∧ minute < 60 ∧ second ≤ 60 ∧ allBlank s then
    let (date, minute) := shift d (60 * hour + minute) offset
    if date.valid then some ⟨date, minute, second, nanos⟩ else none
  else none

def encode (t : Timestamp) : Json :=
  .string t.render

def decode : Json.Decoder Timestamp := fun depth v =>
  (Json.Decoder.string depth v).bind fun s => read? s.toList

end Timestamp

end Deliberation.Archive
