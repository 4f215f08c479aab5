import Deliberation.Outcome.Failure

namespace Deliberation

inductive PipeFailure where
  | unavailable (message : String) (attempts : Nat)
  | api (status : Nat) (message : String)
  | invalidResponse (message : String)
  | timeout (limit : Nat)
  | http (message : String)
  deriving DecidableEq, Repr, Inhabited

namespace PipeFailure

def message : PipeFailure → String
  | unavailable message attempts =>
    "Langbase unavailable: " ++ message ++ " (retries: " ++ Nat.repr attempts ++ ")"
  | api status message => "API error: " ++ Nat.repr status ++ " - " ++ message
  | invalidResponse message => "Invalid response: " ++ message
  | timeout limit => "Request timeout after " ++ Nat.repr limit ++ "ms"
  | http message => "HTTP error: " ++ message

def toFailure : PipeFailure → Failure
  | timeout limit => .timeout limit
  | e => .backend e.message

end PipeFailure

inductive ProgramFailure where
  | configuration (message : String)
  | pipe (e : PipeFailure)
  | reasoning (e : Failure)
  | internal (message : String)
  deriving DecidableEq, Repr, Inhabited

def ProgramFailure.message : ProgramFailure → String
  | configuration message => "Configuration error: " ++ message
  | pipe e => "Langbase error: " ++ e.message
  | reasoning e => "Reasoning error: " ++ e.message
  | internal message => "Internal error: " ++ message

end Deliberation
