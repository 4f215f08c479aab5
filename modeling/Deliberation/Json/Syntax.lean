import Deliberation.Json.Token
import Deliberation.Json.Value

namespace Deliberation.Json

/-- A text that follows the grammar, whatever its depth; strings without content and numbers
without value are refused only by those who ask for them. -/
inductive Syntax where
  | null
  | bool (b : Bool)
  | number (n : Option Number)
  | string (s : Option String)
  | array (items : List Syntax)
  | object (fields : List (Option String × Syntax))
  deriving Inhabited

inductive Frame where
  | items (done : List Syntax)
  | fields (done : List (Option String × Syntax))
  | member (done : List (Option String × Syntax)) (key : Option String)

inductive Await where
  | value
  | itemOrEnd
  | key
  | keyOrEnd
  | colon
  | next
  deriving DecidableEq, Repr

inductive Reading where
  | inside (await : Await) (frames : List Frame)
  | finished (v : Syntax)

def Reading.start : Reading :=
  .inside .value []

def deliver (v : Syntax) : List Frame → Option Reading
  | [] => some (.finished v)
  | .items done :: frames => some (.inside .next (.items (v :: done) :: frames))
  | .member done k :: frames => some (.inside .next (.fields ((k, v) :: done) :: frames))
  | .fields _ :: _ => none

def Reading.value (t : Token) (frames : List Frame) : Option Reading :=
  match t with
  | .null => deliver .null frames
  | .bool b => deliver (.bool b) frames
  | .number n => deliver (.number n) frames
  | .string s => deliver (.string s) frames
  | .openBracket => some (.inside .itemOrEnd (.items [] :: frames))
  | .openBrace => some (.inside .keyOrEnd (.fields [] :: frames))
  | _ => none

def Reading.close (t : Token) (frames : List Frame) : Option Reading :=
  match t, frames with
  | .closeBracket, .items done :: frames => deliver (.array done.reverse) frames
  | .closeBrace, .fields done :: frames => deliver (.object done.reverse) frames
  | _, _ => none

def Reading.key (t : Token) (frames : List Frame) : Option Reading :=
  match t, frames with
  | .string k, .fields done :: frames => some (.inside .colon (.member done k :: frames))
  | _, _ => none

def Reading.step (r : Reading) (t : Token) : Option Reading :=
  match r with
  | .finished _ => none
  | .inside .value frames => Reading.value t frames
  | .inside .itemOrEnd frames =>
    match t with
    | .closeBracket => Reading.close t frames
    | _ => Reading.value t frames
  | .inside .key frames => Reading.key t frames
  | .inside .keyOrEnd frames =>
    match t with
    | .closeBrace => Reading.close t frames
    | _ => Reading.key t frames
  | .inside .colon frames =>
    match t with
    | .colon => some (.inside .value frames)
    | _ => none
  | .inside .next frames =>
    match t, frames with
    | .comma, .items _ :: _ => some (.inside .value frames)
    | .comma, .fields _ :: _ => some (.inside .key frames)
    | _, _ => Reading.close t frames

def Syntax.ofTokens? (ts : List Token) : Option Syntax :=
  (ts.foldlM Reading.step Reading.start).bind fun
    | .finished v => some v
    | .inside _ _ => none

def Syntax.read? (s : List Char) : Option Syntax :=
  (tokens? s).bind Syntax.ofTokens?

mutual

def Syntax.ofJson : Json → Syntax
  | .null => .null
  | .bool b => .bool b
  | .number n => .number (some n)
  | .string s => .string (some s)
  | .array items => .array (Syntax.ofItems items)
  | .object fields => .object (Syntax.ofFields fields)

def Syntax.ofItems : List Json → List Syntax
  | [] => []
  | v :: r => Syntax.ofJson v :: Syntax.ofItems r

def Syntax.ofFields : List (String × Json) → List (Option String × Syntax)
  | [] => []
  | (k, v) :: r => (some k, Syntax.ofJson v) :: Syntax.ofFields r

end

mutual

def Syntax.toJson? : Nat → Syntax → Option Json
  | _, .null => some .null
  | _, .bool b => some (.bool b)
  | _, .number n => n.map .number
  | _, .string s => s.map .string
  | 0, .array _ => none
  | 0, .object _ => none
  | depth + 1, .array items => (Syntax.itemsToJson? depth items).map .array
  | depth + 1, .object fields =>
    (Syntax.fieldsToJson? depth fields).map fun fields => .object (sortFields fields)

def Syntax.itemsToJson? : Nat → List Syntax → Option (List Json)
  | _, [] => some []
  | depth, v :: r => do
    let v ← Syntax.toJson? depth v
    let r ← Syntax.itemsToJson? depth r
    return v :: r

def Syntax.fieldsToJson? : Nat → List (Option String × Syntax) → Option (List (String × Json))
  | _, [] => some []
  | depth, (k, v) :: r => do
    let k ← k
    let v ← Syntax.toJson? depth v
    let r ← Syntax.fieldsToJson? depth r
    return (k, v) :: r

end

def nesting : Nat := 127

end Json

def Json.read? (s : List Char) : Option Json :=
  (Json.Syntax.read? s).bind (Json.Syntax.toJson? Json.nesting)

def Json.ofText? (s : String) : Option Json :=
  Json.read? s.toList

end Deliberation
