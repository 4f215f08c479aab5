import Deliberation.Number.UnitInterval
import Deliberation.Task.Basic
import Deliberation.Text.Letter
import Deliberation.Text.Search

namespace Deliberation.Search

def terms (s : String) : List (List Char) :=
  let found := (Text.runs (fun c => !Text.isAlphanumeric c) s.toList).filter fun w => 3 < w.length
  (found.map Text.lower).eraseDups

def coverage (text : List Char) (t : Task) : Float :=
  let sought := terms t.description
  if sought.isEmpty then 0.5
  else Number.ratio (sought.countP fun w => Text.occursIn w text) sought.length

def substance (candidate : String) : Float :=
  Number.atMostOne (Number.ratio (Text.words candidate.toList).length 30)

def constraintFit (text : List Char) (t : Task) : Float :=
  if t.constraints.isEmpty then 0.5
  else
    let met := t.constraints.countP fun c => (terms c).any fun w => Text.occursIn w text
    Number.ratio met t.constraints.length

def heuristicScore (candidate : String) (t : Task) : Float :=
  let text := Text.lower candidate.toList
  Number.clamp (0.5 * coverage text t + 0.3 * substance candidate + 0.2 * constraintFit text t)

end Deliberation.Search
