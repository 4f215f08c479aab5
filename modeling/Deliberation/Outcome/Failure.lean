namespace Deliberation

inductive Failure where
  | backend (message : String)
  | timeout (limit : Nat)
  | tool (name message : String)
  | parse (context message : String)
  | exhausted (bound : String) (limit : Nat)
  | cancelled
  | validation (field reason : String)
  deriving DecidableEq, Repr, Inhabited

namespace Failure

def message : Failure → String
  | backend message => "Backend error: " ++ message
  | timeout limit => "Call timed out after " ++ Nat.repr limit ++ "ms"
  | tool name message => "Tool " ++ name ++ " failed: " ++ message
  | parse context message => "Failed to parse " ++ context ++ ": " ++ message
  | exhausted bound limit =>
    bound ++ " limit of " ++ Nat.repr limit ++ " reached without a definitive answer"
  | cancelled => "Reasoning cancelled"
  | validation field reason => "Validation failed: " ++ field ++ " - " ++ reason

def isBackendFailure : Failure → Bool
  | backend _ => true
  | timeout _ => true
  | _ => false

def isCancelled : Failure → Bool
  | cancelled => true
  | _ => false

end Failure

end Deliberation
