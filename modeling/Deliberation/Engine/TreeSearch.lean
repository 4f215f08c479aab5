import Deliberation.Engine.Team
import Deliberation.Number.Fixed
import Deliberation.Outcome.Result
import Deliberation.Prompt
import Deliberation.Reply.Candidates
import Deliberation.Reply.Grade
import Deliberation.Run.Program
import Deliberation.Search.Heuristic
import Deliberation.Search.Tree

namespace Deliberation.Engine.TreeSearch

open Run Search

abbrev Expansion := Except Failure (List (String × Option Float))

def numbered (path : List String) : List String :=
  path.zipIdx.map fun (step, i) => Nat.repr (i + 1) ++ ". " ++ step

def soFar (path : List String) : String :=
  if path.isEmpty then "(none yet - propose initial approaches)"
  else "\n".intercalate (numbered path)

def expansionRequest (t : Task) (path : List String) (count : Nat) : Request :=
  .ofMessages [.system (Prompt.expansion (Nat.repr count)),
    .user ("Task:\n" ++ t.render ++ "\n\nApproach so far:\n" ++ soFar path)]

def evaluationRequest (t : Task) (candidate : String) : Request :=
  .ofMessages [.system Prompt.evaluation,
    .user ("Task:\n" ++ t.render ++ "\n\nCandidate approach:\n" ++ candidate)]

def backendScore (t : Task) (candidate : String) : Except Failure Completion → Float
  | .ok c => (Reply.score? c.text).getD (heuristicScore candidate t)
  | .error _ => heuristicScore candidate t

def evaluate (team : Team) (t : Task) (candidate : String) : Process (Except Failure Float) :=
  match team.evaluator with
  | .backend =>
    .guarded (.complete (evaluationRequest t candidate)) fun a =>
      .done (a.map (backendScore t candidate))
  | .heuristic =>
    .poll fun cancelled =>
      .done (if cancelled then .error .cancelled else .ok (heuristicScore candidate t))
  | .external => .guarded (.score candidate t) .done

/-- A candidate stays without score if its evaluation fails or gives no finite number. -/
def finiteScore : Except Failure Float → Except Failure (Option Float)
  | .ok x => .ok (if x.isFinite then some (Number.clamp x) else none)
  | .error .cancelled => .error .cancelled
  | .error _ => .ok none

def scoreAll (team : Team) (t : Task) : List String → Process Expansion
  | [] => .done (.ok [])
  | c :: cs => do
    match finiteScore (← evaluate team t c) with
    | .error e => return .error e
    | .ok score =>
      let rest ← scoreAll team t cs
      return rest.map ((c, score) :: ·)

def expand (team : Team) (t : Task) (count : Nat) (path : List String) : Process Expansion := do
  match (← complete (expansionRequest t path count)).bind fun c => Reply.candidates c.text count with
  | .error e => return .error e
  | .ok cs => scoreAll team t cs

structure State where
  tree : Tree
  trace : Trace
  frontier : List Nat
  lastError : Option Failure
  created : List Nat
  deriving Inhabited

namespace State

def start (t : Task) : State :=
  ⟨.ofRoot t.description, .empty, [Tree.root], none, []⟩

def addAll (s : State) (parent : Nat) (children : List (String × Option Float)) : State :=
  children.foldl (fun s (content, score) =>
    match s.tree.addChild? parent content (score.map Score.ofFloat) with
    | some (tree, id) => { s with tree := tree, created := s.created ++ [id] }
    | none => s) s

def expanded (parent : Nat) (children : List (String × Option Float)) : String :=
  "Node " ++ Nat.repr parent ++ " expanded into " ++ Nat.repr children.length ++ " candidates: " ++
    " | ".intercalate (children.map fun (content, _) => Text.preview content 120)

def notExpanded (parent : Nat) (e : Failure) : String :=
  "Expansion of node " ++ Nat.repr parent ++ " failed: " ++ e.message

def enter (s : State) (parent : Nat) : Expansion → State
  | .ok children =>
    let s := { s with trace := s.trace.record .expand (expanded parent children) }
    s.addAll parent children
  | .error e =>
    { s with
      trace := s.trace.record .expand (notExpanded parent e)
      lastError := some e }

def createdNodes (s : State) : List Node :=
  s.created.filterMap s.tree.get?

def verdict (n : Node) : String :=
  let score := match n.score with
    | some score => "score " ++ Number.twoPlaces score.value
    | none => "unscored"
  "Node " ++ Nat.repr n.id ++ " (" ++ score ++ "): " ++ Text.preview n.content 200

def enterAll (s : State) (expansions : List (Nat × Expansion)) : State :=
  let s := expansions.foldl (fun s (parent, e) => s.enter parent e) { s with created := [] }
  { s with trace := s.trace.recordAll .evaluate (s.createdNodes.map verdict) }

def exceeds (s : State) (floor : Float) : Bool :=
  s.createdNodes.any fun n => n.score.any fun score => floor < score.value

def retain (s : State) (width : Nat) : State :=
  { s with frontier := ((ranking s.createdNodes).take width).map Node.id }

end State

def isCancelled : Expansion → Bool
  | .error .cancelled => true
  | _ => false

structure Bounds where
  branch : Nat
  beam : Nat
  floor : Float
  deriving DecidableEq, Repr

def expandNode (team : Team) (t : Task) (count : Nat) (tree : Tree) (id : Nat) :
    Process (Nat × Expansion) := do
  return (id, ← expand team t count (tree.path id))

def workers (team : Team) (t : Task) (b : Bounds) (s : State) : List (Process (Nat × Expansion)) :=
  s.frontier.map (expandNode team t b.branch s.tree)

def explore (team : Team) (t : Task) (b : Bounds) :
    Nat → State → Program (Nat × Expansion) (State × Option Failure)
  | 0, s => .done (s, none)
  | depths + 1, s => do
    if s.frontier.isEmpty then return (s, none)
    if ← Process.cancelled then return (s, some .cancelled)
    let joined ← Program.together (workers team t b s)
    if ← Process.cancelled then return (s, some .cancelled)
    if joined.any fun (_, e) => isCancelled e then return (s, some .cancelled)
    let s := s.enterAll (inOrder joined)
    if s.exceeds b.floor then return (s, none)
    explore team t b depths (s.retain b.beam)

def failure? (s : State) (e : Option Failure) : Option Failure :=
  match e, s.tree.best? with
  | some e, _ => some e
  | none, some _ => none
  | none, none => s.lastError

def conclude (s : State) (e : Option Failure) : Result :=
  match failure? s e, s.tree.best? with
  | some .cancelled, _ => .cancelled .treeSearch s.trace
  | some e, best => .degraded .treeSearch ((best.map Node.content).getD "") s.trace e.message
  | none, some n =>
    .success .treeSearch n.content ((n.score.map Score.value).getD 0.0) s.trace
  | none, none =>
    .degraded .treeSearch "" s.trace "no candidate approach could be generated and scored"

def search (team : Team) (t : Task) (o : Options) : Program (Nat × Expansion) (Result × Tree) := do
  let b : Bounds := ⟨max o.branchFactor 1, max o.beamWidth 1, o.confidenceFloor⟩
  let (s, e) ← explore team t b (max o.maxDepth 1) (.start t)
  return (conclude s e, s.tree)

end Deliberation.Engine.TreeSearch
