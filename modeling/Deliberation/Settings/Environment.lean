import Deliberation.Number.Literal
import Deliberation.Text.Blank
import Deliberation.Text.Search

namespace Deliberation

/-- The variables that are set. One whose value is no text counts as not set. -/
abbrev Environment := String → Option String

namespace Environment

def ofList (vs : List (String × String)) : Environment :=
  fun name => vs.lookup name

def textOr (e : Environment) (name fallback : String) : String :=
  (e name).getD fallback

def readOr {α : Type} (read : List Char → Option α) (e : Environment) (name : String)
    (fallback : α) : α :=
  ((e name).bind fun s => read (Text.trim s.toList)).getD fallback

def countOr (bound : Nat) (e : Environment) (name : String) (fallback : Nat) : Nat :=
  e.readOr (Number.readCount? bound) name fallback

def realOr (e : Environment) (name : String) (fallback : Float) : Float :=
  e.readOr Number.readFloat? name fallback

def supply (e : Environment) (name value : String) : Environment :=
  fun n => (e n).orElse fun _ => if n = name then some value else none

end Environment

inductive FileLine where
  | empty
  | variable (name value : String)
  | malformed
  deriving DecidableEq, Repr, Inhabited

namespace FileLine

def startsName (c : Char) : Bool :=
  c.isAlpha || c = '_'

def continuesName (c : Char) : Bool :=
  c.isAlphanum || c = '_' || c = '.'

def isGap (c : Char) : Bool :=
  c = ' ' || c = '\t'

def endsWell (s : List Char) : Bool :=
  match s.dropWhile isGap with
  | [] => true
  | c :: _ => c = '#'

def readValue (name : List Char) (s : List Char) : FileLine :=
  match Text.trim s with
  | [] => .variable (String.ofList name) ""
  | '#' :: _ => .variable (String.ofList name) ""
  | s =>
    if endsWell (s.dropWhile fun c => !isGap c) then
      .variable (String.ofList name) (String.ofList (s.takeWhile fun c => !isGap c))
    else .malformed

def read (line : List Char) : FileLine :=
  match Text.trim line with
  | [] => .empty
  | '#' :: _ => .empty
  | c :: r =>
    if startsName c then
      match Text.trimLeft (r.dropWhile continuesName) with
      | '=' :: s => readValue (c :: r.takeWhile continuesName) s
      | _ => .malformed
    else .malformed

end FileLine

def Environment.supplyLines (e : Environment) : List (List Char) → Environment
  | [] => e
  | line :: lines =>
    match FileLine.read line with
    | .empty => e.supplyLines lines
    | .variable name value => (e.supply name value).supplyLines lines
    | .malformed => e

def Environment.supplyFile (e : Environment) (text : String) : Environment :=
  e.supplyLines (Text.pieces '\n' text.toList)

end Deliberation
