import Deliberation.Archive.Stamped
import Deliberation.Command.Invocation
import Deliberation.Json.Pretty
import Deliberation.Script.Recording

namespace Deliberation.Command

def output (r : Script.Recording) : Ending → String
  | .answered result =>
    (Archive.StampedResult.ofResult r.id r.timestamp result).encode.prettyText ++ "\n"
  | .told text => text
  | _ => ""

def replay (r : Script.Recording) (words : List String) (e : Environment) : Ending :=
  (invoke Script.network words e r.start).1

end Deliberation.Command
