import Deliberation.Json.Value

namespace Deliberation.Json

def newline (level : Nat) : List Char :=
  '\n' :: List.replicate (2 * level) ' '

mutual

def pretty (level : Nat) : Json → List Char
  | .array [] => ['[', ']']
  | .array (v :: r) =>
    '[' :: newline (level + 1) ++ pretty (level + 1) v ++ prettyItems (level + 1) r ++
      newline level ++ [']']
  | .object [] => ['\x7b', '\x7d']
  | .object ((k, v) :: r) =>
    '\x7b' :: newline (level + 1) ++ quote k ++ ':' :: ' ' :: pretty (level + 1) v ++
      prettyFields (level + 1) r ++ newline level ++ ['\x7d']
  | v => v.render

def prettyItems (level : Nat) : List Json → List Char
  | [] => []
  | v :: r => ',' :: newline level ++ pretty level v ++ prettyItems level r

def prettyFields (level : Nat) : List (String × Json) → List Char
  | [] => []
  | (k, v) :: r =>
    ',' :: newline level ++ quote k ++ ':' :: ' ' :: pretty level v ++ prettyFields level r

end

def prettyText (v : Json) : String :=
  String.ofList (v.pretty 0)

end Deliberation.Json
