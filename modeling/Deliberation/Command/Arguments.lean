import Deliberation.Number.Literal
import Deliberation.Task.Basic
import Deliberation.Task.Options

namespace Deliberation.Command

inductive Bound where
  | maxIterations
  | maxRounds
  | maxDepth
  | branchFactor
  | beamWidth
  | debaters
  deriving DecidableEq, Repr, Inhabited

namespace Bound

def set (o : Options) (n : Nat) : Bound → Options
  | maxIterations => o.withMaxIterations n
  | maxRounds => o.withMaxRounds n
  | maxDepth => o.withMaxDepth n
  | branchFactor => o.withBranchFactor n
  | beamWidth => o.withBeamWidth n
  | debaters => o.withDebaterCount n

def all : List Bound :=
  [maxIterations, maxRounds, maxDepth, branchFactor, beamWidth, debaters]

def name : Bound → String
  | maxIterations => "max-iterations"
  | maxRounds => "max-rounds"
  | maxDepth => "max-depth"
  | branchFactor => "branch-factor"
  | beamWidth => "beam-width"
  | debaters => "debaters"

end Bound

structure Arguments where
  task : Option String := none
  strategy : Option Strategy := none
  constraints : List String := []
  toolNames : List String := []
  bounds : List (Bound × Nat) := []
  skipSetup : Bool := false
  deriving DecidableEq, Repr, Inhabited

inductive Key where
  | strategy
  | constraint
  | tool
  | bound (b : Bound)
  deriving DecidableEq, Repr, Inhabited

namespace Arguments

def empty : Arguments := {}

def setTask (a : Arguments) (s : String) : Option Arguments :=
  if a.task.isSome then none else some { a with task := some s }

def set (a : Arguments) (k : Key) (value : List Char) : Option Arguments :=
  match k with
  | .constraint => some { a with constraints := a.constraints ++ [String.ofList value] }
  | .tool => some { a with toolNames := a.toolNames ++ [String.ofList value] }
  | .strategy =>
    match a.strategy, Strategy.parse? (String.ofList value) with
    | none, some s => some { a with strategy := some s }
    | _, _ => none
  | .bound b =>
    match a.bounds.lookup b, Number.readCount? Number.wordBound value with
    | none, some n => some { a with bounds := a.bounds ++ [(b, n)] }
    | _, _ => none

def setSkip (a : Arguments) : Option Arguments :=
  if a.skipSetup then none else some { a with skipSetup := true }

def toTask (a : Arguments) (description : String) : Task :=
  ⟨description, a.constraints, a.toolNames⟩

def adjust (a : Arguments) (o : Options) : Options :=
  a.bounds.foldl (fun o (b, n) => b.set o n) <|
    match a.strategy with
    | some s => o.withStrategy s
    | none => o

end Arguments

inductive Flag where
  | key (k : Key)
  | skip
  | help
  | version
  deriving DecidableEq, Repr, Inhabited

namespace Flag

def ofLetter? (c : Char) : Option Flag :=
  if c = 's' then some (.key .strategy)
  else if c = 'c' then some (.key .constraint)
  else if c = 't' then some (.key .tool)
  else if c = 'h' then some .help
  else if c = 'V' then some .version
  else none

def ofWord? (s : List Char) : Option Flag :=
  let word := String.ofList s
  if word = "strategy" then some (.key .strategy)
  else if word = "constraint" then some (.key .constraint)
  else if word = "tool" then some (.key .tool)
  else if word = "skip-pipe-setup" then some .skip
  else if word = "help" then some .help
  else if word = "version" then some .version
  else (Bound.all.find? fun b => b.name == word).map fun b => .key (.bound b)

theorem ofWord?_name (b : Bound) : ofWord? b.name.toList = some (.key (.bound b)) := by
  cases b <;> decide

end Flag

inductive Word where
  | plain (s : List Char)
  | dashes
  | long (name : List Char) (value : Option (List Char))
  | short (letter : Char) (rest : List Char)
  deriving DecidableEq, Repr, Inhabited

namespace Word

def ofLong (s : List Char) : Word :=
  match s.dropWhile (· ≠ '=') with
  | _ :: value => .long (s.takeWhile (· ≠ '=')) (some value)
  | [] => .long s none

def ofChars : List Char → Word
  | ['-', '-'] => .dashes
  | '-' :: '-' :: s => ofLong s
  | '-' :: c :: s => .short c s
  | s => .plain s

end Word

inductive Demand where
  | work (a : Arguments) (description : String)
  | help (full : Bool)
  | version
  | misuse
  deriving DecidableEq, Repr, Inhabited

namespace Demand

def ofArguments (a : Arguments) : Demand :=
  match a.task with
  | some description => .work a description
  | none => .misuse

def andThen (a : Option Arguments) (next : Arguments → Demand) : Demand :=
  match a with
  | some a => next a
  | none => .misuse

def plainOnly (a : Arguments) : List String → Demand
  | [] => ofArguments a
  | s :: r => andThen (a.setTask s) fun a => plainOnly a r

def attached : List Char → Option (List Char)
  | [] => none
  | '=' :: s => some s
  | s => some s

def flag? : Word → Option (Flag × Option (List Char) × Bool)
  | .long name value => (Flag.ofWord? name).map fun f => (f, value, true)
  | .short letter rest => (Flag.ofLetter? letter).map fun f => (f, attached rest, false)
  | _ => none

def isPlain (w : Word) : Bool :=
  match w with
  | .plain _ => true
  | _ => false

def read (a : Arguments) : List String → Demand
  | [] => ofArguments a
  | s :: r =>
    match Word.ofChars s.toList with
    | .plain _ => andThen (a.setTask s) fun a => read a r
    | .dashes => plainOnly a r
    | w =>
      match flag? w with
      | none => .misuse
      | some (.key k, some value, _) => andThen (a.set k value) fun a => read a r
      | some (.key k, none, _) =>
        match r with
        | v :: r =>
          if isPlain (Word.ofChars v.toList) then andThen (a.set k v.toList) fun a => read a r
          else .misuse
        | [] => .misuse
      | some (_, some _, true) => .misuse
      | some (.skip, _, _) => andThen a.setSkip fun a => read a r
      | some (.help, _, full) => .help full
      | some (.version, _, _) => .version

def ofWords (words : List String) : Demand :=
  read .empty words

end Demand

end Deliberation.Command
