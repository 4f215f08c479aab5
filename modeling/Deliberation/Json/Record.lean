import Deliberation.Json.Syntax

namespace Deliberation.Json

/-- Reads a value out of a text whose containers may nest as deep as the first argument says. -/
abbrev Decoder (α : Type) := Nat → Syntax → Option α

namespace Decoder

variable {α : Type}

def string : Decoder String := fun _ v =>
  match v with
  | .string s => s
  | _ => none

def bool : Decoder Bool := fun _ v =>
  match v with
  | .bool b => some b
  | _ => none

def float : Decoder Float := fun _ v =>
  match v with
  | .number n => n.map Number.toFloat
  | _ => none

def count (bound : Nat) : Decoder Nat := fun _ v =>
  match v with
  | .number (some (.int (.ofNat n))) => if n < bound then some n else none
  | _ => none

def value : Decoder Json :=
  Syntax.toJson?

def optional (d : Decoder α) : Decoder (Option α) := fun depth v =>
  match v with
  | .null => some none
  | v => (d depth v).map some

def list (d : Decoder α) : Decoder (List α) := fun depth v =>
  match depth, v with
  | depth + 1, .array items => items.mapM (d depth)
  | _, _ => none

def name (ofName : String → Option α) : Decoder α := fun depth v =>
  match depth, v with
  | _, .string s => s.bind ofName
  | _ + 1, .object [(k, .null)] => k.bind ofName
  | _, _ => none

end Decoder

/-- The members of a record: named by the fields of an object or, in their order, by the items
of an array. -/
structure Members where
  positional : Bool
  depth : Nat
  find? : String → Option Syntax

def distinctAmong (names : List String) (keys : List String) : Bool :=
  names.all fun n => keys.count n ≤ 1

def members? (names : List String) (depth : Nat) (v : Syntax) : Option Members :=
  match depth, v with
  | depth + 1, .object fields =>
    (fields.mapM Prod.fst).bind fun keys =>
      if distinctAmong names keys then
        some ⟨false, depth, fun n => (keys.zip (fields.map Prod.snd)).lookup n⟩
      else none
  | depth + 1, .array items =>
    if items.length ≤ names.length then
      some ⟨true, depth, fun n => (names.zip items).lookup n⟩
    else none
  | _, _ => none

namespace Members

variable {α : Type}

def required (m : Members) (n : String) (d : Decoder α) : Option α :=
  (m.find? n).bind (d m.depth)

def orElse (m : Members) (n : String) (fallback : α) (d : Decoder α) : Option α :=
  match m.find? n with
  | some v => d m.depth v
  | none => some fallback

def optional (m : Members) (n : String) (d : Decoder α) : Option (Option α) :=
  match m.find? n with
  | some v => Decoder.optional d m.depth v
  | none => if m.positional then none else some none

end Members

def record {α : Type} (names : List String) (build : Members → Option α) : Decoder α :=
  fun depth v => (members? names depth v).bind build

variable {α : Type}

def decodeText (d : Decoder α) (s : String) : Option α :=
  (Syntax.read? s.toList).bind (d nesting)

def decode (d : Decoder α) (v : Json) : Option α :=
  d (nesting + 1) (Syntax.ofJson v)

end Deliberation.Json
