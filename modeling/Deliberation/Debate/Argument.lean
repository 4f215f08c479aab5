import Deliberation.Json.Record

namespace Deliberation.Debate

structure Argument where
  round : Nat
  debaterId : Nat
  perspective : String
  argument : String
  deriving DecidableEq, Repr, Inhabited

namespace Argument

def shown (n : Nat) : String :=
  Nat.repr ((n + 1) % Number.wordBound)

def line (a : Argument) : String :=
  "[Round " ++ shown a.round ++ "] Debater " ++ shown a.debaterId ++ " (" ++ a.perspective ++
    "): " ++ a.argument

def encode (a : Argument) : Json :=
  .object [("round", .count a.round), ("debaterId", .count a.debaterId),
    ("perspective", .string a.perspective), ("argument", .string a.argument)]

def decode : Json.Decoder Argument :=
  Json.record ["round", "debaterId", "perspective", "argument"] fun m => do
    let word := Json.Decoder.count Number.wordBound
    let round ← m.required "round" word
    let debaterId ← m.required "debaterId" word
    let perspective ← m.required "perspective" .string
    let argument ← m.required "argument" .string
    return ⟨round, debaterId, perspective, argument⟩

end Argument

def separator : String :=
  "\n\n---\n\n"

def history (arguments : List Argument) : String :=
  separator.intercalate (arguments.map Argument.line)

end Deliberation.Debate
