import Deliberation.Json.Record
import Deliberation.Text.Utf8

namespace Deliberation.Json

/-- Stands in for bytes that are no text: outside a string and after a backslash it is refused,
inside a string it leaves the string without content. -/
def undecodable : List Char :=
  "x\\udc00\\udc00".toList

def charsOf (bytes : List UInt8) : List Char :=
  (Text.Utf8.decode bytes).flatMap fun
    | some c => [c]
    | none => undecodable

def decodeBytes {α : Type} (d : Decoder α) (bytes : List UInt8) : Option α :=
  (Syntax.read? (charsOf bytes)).bind (d nesting)

end Deliberation.Json
