import Deliberation.Pipe.Failure
import Deliberation.Settings.Environment
import Deliberation.Task.Options

namespace Deliberation

inductive LogFormat where
  | pretty
  | json
  deriving DecidableEq, Repr, Inhabited

namespace LogFormat

def name : LogFormat → String
  | pretty => "pretty"
  | json => "json"

def ofText (s : String) : LogFormat :=
  if Text.lower s.toList = "json".toList then json else pretty

end LogFormat

structure Settings where
  apiKey : String
  baseUrl : String
  pipeName : String
  logLevel : String
  logFormat : LogFormat
  timeoutMs : Nat
  maxRetries : Nat
  retryDelayMs : Nat
  options : Options
  deriving DecidableEq, Repr, Inhabited

namespace Settings

def variableNames : List String :=
  ["LANGBASE_API_KEY", "LANGBASE_BASE_URL", "LANGBASE_PIPE", "LOG_LEVEL", "LOG_FORMAT",
    "REQUEST_TIMEOUT_MS", "MAX_RETRIES", "RETRY_DELAY_MS", "REASONING_STRATEGY",
    "REASONING_MAX_ITERATIONS", "REASONING_MAX_ROUNDS", "REASONING_MAX_DEPTH",
    "REASONING_BRANCH_FACTOR", "REASONING_BEAM_WIDTH", "REASONING_DEBATER_COUNT",
    "REASONING_CONFIDENCE_FLOOR", "REASONING_CALL_TIMEOUT_MS"]

def word (e : Environment) (name : String) (fallback : Nat) : Nat :=
  e.countOr Number.wordBound name fallback

def baseOptions (e : Environment) : Options :=
  let d := Options.default
  d |>.withMaxIterations (word e "REASONING_MAX_ITERATIONS" d.maxIterations)
    |>.withMaxRounds (word e "REASONING_MAX_ROUNDS" d.maxRounds)
    |>.withMaxDepth (word e "REASONING_MAX_DEPTH" d.maxDepth)
    |>.withBranchFactor (word e "REASONING_BRANCH_FACTOR" d.branchFactor)
    |>.withBeamWidth (word e "REASONING_BEAM_WIDTH" d.beamWidth)
    |>.withDebaterCount (word e "REASONING_DEBATER_COUNT" d.debaterCount)
    |>.withConfidenceFloor (e.realOr "REASONING_CONFIDENCE_FLOOR" d.confidenceFloor)
    |>.withCallTimeoutMs (word e "REASONING_CALL_TIMEOUT_MS" d.callTimeoutMs)

def strategyOf (e : Environment) : Except ProgramFailure (Option Strategy) :=
  match e "REASONING_STRATEGY" with
  | none => .ok none
  | some name =>
    if Text.blankString name then .ok none
    else
      match Strategy.parse? name with
      | some s => .ok (some s)
      | none => .error (.configuration (Strategy.unknown name))

def optionsOf (e : Environment) : Except ProgramFailure Options :=
  (strategyOf e).map fun
    | some s => (baseOptions e).withStrategy s
    | none => baseOptions e

def apiKeyMissing : ProgramFailure :=
  .configuration "LANGBASE_API_KEY is required"

def load (e : Environment) : Except ProgramFailure Settings :=
  match e "LANGBASE_API_KEY" with
  | none => .error apiKeyMissing
  | some apiKey =>
    (optionsOf e).map fun options =>
      { apiKey := apiKey
        baseUrl := e.textOr "LANGBASE_BASE_URL" "https://api.langbase.com"
        pipeName := e.textOr "LANGBASE_PIPE" "reasoning-orchestrator-v1"
        logLevel := e.textOr "LOG_LEVEL" "info"
        logFormat := .ofText (e.textOr "LOG_FORMAT" "pretty")
        timeoutMs := word e "REQUEST_TIMEOUT_MS" 30000
        maxRetries := e.countOr Number.halfWordBound "MAX_RETRIES" 3
        retryDelayMs := word e "RETRY_DELAY_MS" 1000
        options := options }

end Settings

end Deliberation
