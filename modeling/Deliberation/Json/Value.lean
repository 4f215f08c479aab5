import Deliberation.Json.Literal
import Deliberation.Number.Shortest
import Deliberation.Text.Escape

namespace Deliberation

inductive Json where
  | null
  | bool (b : Bool)
  | number (n : Json.Number)
  | string (s : String)
  | array (items : List Json)
  | object (fields : List (String × Json))
  deriving Inhabited

namespace Json

def int (n : Int) : Json :=
  .number (.int n)

def count (n : Nat) : Json :=
  .number (.int n)

def real (x : Float) : Json :=
  if x.isFinite then .number (.real x) else .null

def strings (xs : List String) : Json :=
  .array (xs.map .string)

def present (k : String) (v : Option Json) : List (String × Json) :=
  match v with
  | some v => [(k, v)]
  | none => []

def Number.render : Number → List Char
  | .int n => (toString n).toList
  | .real x => Deliberation.Number.renderFloat x

def escape (c : Char) : List Char :=
  if c = '"' then ['\\', '"']
  else if c = '\\' then ['\\', '\\']
  else if 0x20 ≤ c.toNat then [c]
  else if c = '\n' then ['\\', 'n']
  else if c = '\r' then ['\\', 'r']
  else if c = '\t' then ['\\', 't']
  else if c.toNat = 8 then ['\\', 'b']
  else if c.toNat = 12 then ['\\', 'f']
  else '\\' :: 'u' :: Text.hexPadded 4 c.toNat

def quote (s : String) : List Char :=
  '"' :: s.toList.flatMap escape ++ ['"']

mutual

def render : Json → List Char
  | .null => ['n', 'u', 'l', 'l']
  | .bool true => ['t', 'r', 'u', 'e']
  | .bool false => ['f', 'a', 'l', 's', 'e']
  | .number n => n.render
  | .string s => quote s
  | .array items => '[' :: renderItems items ++ [']']
  | .object fields => '\x7b' :: renderFields fields ++ ['\x7d']

def renderItems : List Json → List Char
  | [] => []
  | [v] => v.render
  | v :: w :: r => v.render ++ ',' :: renderItems (w :: r)

def renderFields : List (String × Json) → List Char
  | [] => []
  | [(k, v)] => quote k ++ ':' :: v.render
  | (k, v) :: f :: r => quote k ++ ':' :: v.render ++ ',' :: renderFields (f :: r)

end

def text (v : Json) : String :=
  String.ofList v.render

def insertField (k : String) (v : Json) : List (String × Json) → List (String × Json)
  | [] => [(k, v)]
  | (k', v') :: r =>
    if k < k' then (k, v) :: (k', v') :: r
    else if k = k' then (k, v) :: r
    else (k', v') :: insertField k v r

def sortFields (fields : List (String × Json)) : List (String × Json) :=
  fields.foldl (fun acc (k, v) => insertField k v acc) []

mutual

def canonical : Json → Json
  | .array items => .array (canonicalItems items)
  | .object fields => .object (sortFields (canonicalFields fields))
  | v => v

def canonicalItems : List Json → List Json
  | [] => []
  | v :: r => v.canonical :: canonicalItems r

def canonicalFields : List (String × Json) → List (String × Json)
  | [] => []
  | (k, v) :: r => (k, v.canonical) :: canonicalFields r

end

def field? (k : String) : Json → Option Json
  | .object fields => fields.lookup k
  | _ => none

def string? : Json → Option String
  | .string s => some s
  | _ => none

def bool? : Json → Option Bool
  | .bool b => some b
  | _ => none

def Number.toFloat : Number → Float
  | .int n => Float.ofInt n
  | .real x => x

def float? : Json → Option Float
  | .number n => some n.toFloat
  | _ => none

def items? : Json → Option (List Json)
  | .array items => some items
  | _ => none

def isNull : Json → Bool
  | .null => true
  | _ => false

end Json

end Deliberation
