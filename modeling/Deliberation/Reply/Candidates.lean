import Deliberation.Number.Literal
import Deliberation.Outcome.Failure
import Deliberation.Reply.Object

namespace Deliberation.Reply

def stripBullet (s : List Char) : List Char :=
  ((Text.afterPrefix? ['-', ' '] s).orElse fun _ => Text.afterPrefix? ['*', ' '] s).getD s

def afterNumber? (s : List Char) : Option (List Char) :=
  let (ds, r) := Number.splitDigits s
  if ds.isEmpty then none
  else (Text.afterPrefix? ['.', ' '] r).orElse fun _ => Text.afterPrefix? [')', ' '] r

def stripMarker (line : List Char) : List Char :=
  let s := stripBullet (Text.trim line)
  Text.trim ((afterNumber? s).getD s)

def candidateOf? (item : Json) : Option String :=
  match item with
  | .string s => some s
  | .object _ => ["content", "approach", "thought"].findSome? fun k =>
      (item.field? k).bind Json.string?
  | _ => none

def candidateLines (s : List Char) : List String :=
  (((Text.pieces '\n' s).map stripMarker).filter fun l => !l.isEmpty).map String.ofList

def listed? (s : List Char) : Option (List Json) :=
  ((object? s).bind (Json.field? "candidates")).bind Json.items?

def bare? (s : List Char) : Option (List Json) :=
  ((extract s).toOption.bind Json.read?).bind Json.items?

def proposals (s : List Char) : List String :=
  match (listed? s).orElse fun _ => bare? s with
  | some items => items.filterMap candidateOf?
  | none => candidateLines s

def noCandidates (reply : String) : Failure :=
  .parse "expansion candidates" ("no candidates in response: '" ++ Text.preview reply 100 ++ "'")

def candidates (reply : String) (count : Nat) : Except Failure (List String) :=
  let found := ((proposals reply.toList).filter fun c => !Text.blankString c).take count
  if found.isEmpty then .error (noCandidates reply) else .ok found

end Deliberation.Reply
