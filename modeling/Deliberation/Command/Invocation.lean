import Deliberation.Command.Arguments
import Deliberation.Command.Usage
import Deliberation.Engine.Orchestrator
import Deliberation.Pipe.World
import Deliberation.Settings.Basic

namespace Deliberation.Command

open Pipe Run

inductive Ending where
  | answered (r : Result)
  | misconfigured (e : ProgramFailure)
  | unprepared (e : PipeFailure)
  | told (text : String)
  | misused
  deriving DecidableEq, Repr, Inhabited

namespace Ending

def exitCode : Ending → Nat
  | answered r => if r.succeeded then 0 else 2
  | misconfigured _ => 1
  | unprepared _ => 1
  | told _ => 0
  | misused => 2

def complaint : Ending → Option String
  | misconfigured e => some ("Configuration error: " ++ e.message)
  | unprepared e => some ("Error: " ++ e.message)
  | misused => some "error: the command line is not understood; see --help"
  | answered _ => none
  | told _ => none

end Ending

def client (s : Settings) : Client where
  baseUrl := trimSlashes s.baseUrl
  apiKey := s.apiKey
  timeout := s.timeoutMs
  maxRetries := s.maxRetries
  retryDelay := s.retryDelayMs

def team : Engine.Team where
  evaluator := .backend
  validator := .backend
  attempter := .backend
  declarations := .value noTools.declarations
  select := Engine.Team.recommended

variable {σ : Type}

def prepare (n : Network σ) (s : Settings) (skip : Bool) (net : σ) : Except PipeFailure Unit × σ :=
  if skip then (.ok (), net)
  else
    let (t, net) := (client s).ensure n s.pipeName net
    (t.result, net)

def reason (n : Network σ) (s : Settings) (a : Arguments) (description : String) (net : σ) :
    Result × σ :=
  let o := a.adjust s.options
  let w := world n (client s) s.pipeName o.callTimeoutMs
  let (r, session) := Engine.orchestrate w team (a.toTask description) o (.start net none)
  (r, session.world)

def work (n : Network σ) (a : Arguments) (description : String) (e : Environment) (net : σ) :
    Ending × σ :=
  match Settings.load e with
  | .error e => (.misconfigured e, net)
  | .ok s =>
    match prepare n s a.skipSetup net with
    | (.error e, net) => (.unprepared e, net)
    | (.ok (), net) =>
      let (r, net) := reason n s a description net
      (.answered r, net)

def invoke (n : Network σ) (words : List String) (e : Environment) (net : σ) : Ending × σ :=
  match Demand.ofWords words with
  | .work a description => work n a description e net
  | .help full => (.told (helpText full), net)
  | .version => (.told versionText, net)
  | .misuse => (.misused, net)

end Deliberation.Command
