import Deliberation.Json.Record
import Deliberation.Text.Letter

namespace Deliberation

inductive Strategy where
  | iterative
  | reflexive
  | treeSearch
  | debate
  deriving DecidableEq, Repr, Inhabited

namespace Strategy

def name : Strategy → String
  | iterative => "iterative"
  | reflexive => "reflexive"
  | treeSearch => "tree_search"
  | debate => "debate"

def ofName? (s : String) : Option Strategy :=
  if s = "iterative" then some iterative
  else if s = "reflexive" then some reflexive
  else if s = "tree_search" then some treeSearch
  else if s = "debate" then some debate
  else none

theorem ofName?_name (s : Strategy) : ofName? s.name = some s := by
  cases s <;> decide

def fold (s : String) : String :=
  String.ofList ((Text.lower s.toList).map fun c => if c = '-' then '_' else c)

def ofAlias? (s : String) : Option Strategy :=
  if s = "react" then some iterative
  else if s = "reflexion" then some reflexive
  else if s = "tree" ∨ s = "tot" then some treeSearch
  else ofName? s

def parse? (s : String) : Option Strategy :=
  ofAlias? (fold s)

def unknown (s : String) : String :=
  "Unknown reasoning strategy: " ++ s

def encode (s : Strategy) : Json :=
  .string s.name

def decode : Json.Decoder Strategy :=
  Json.Decoder.name ofName?

end Strategy

end Deliberation
