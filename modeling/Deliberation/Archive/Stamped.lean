import Deliberation.Archive.Timestamp
import Deliberation.Outcome.Result
import Deliberation.Search.Tree

namespace Deliberation.Archive

structure StampedStep where
  stage : Stage
  content : String
  timestamp : Timestamp
  deriving DecidableEq, Repr, Inhabited

namespace StampedStep

def encode (s : StampedStep) : Json :=
  .object [("stage", .string s.stage.name), ("content", .string s.content),
    ("timestamp", s.timestamp.encode)]

def decode : Json.Decoder StampedStep :=
  Json.record ["stage", "content", "timestamp"] fun m => do
    let stage ← m.required "stage" (.name Stage.ofName?)
    let content ← m.required "content" .string
    let timestamp ← m.required "timestamp" Timestamp.decode
    return ⟨stage, content, timestamp⟩

end StampedStep

structure StampedTrace where
  id : String
  steps : List StampedStep
  deriving DecidableEq, Repr, Inhabited

namespace StampedTrace

def encode (t : StampedTrace) : Json :=
  .object [("id", .string t.id), ("steps", .array (t.steps.map StampedStep.encode))]

def decode : Json.Decoder StampedTrace :=
  Json.record ["id", "steps"] fun m => do
    let id ← m.required "id" .string
    let steps ← m.required "steps" (.list StampedStep.decode)
    return ⟨id, steps⟩

def ofTrace (id : String) (timestamp : Timestamp) (t : Trace) : StampedTrace :=
  ⟨id, t.steps.map fun s => ⟨s.stage, s.content, timestamp⟩⟩

end StampedTrace

structure StampedResult where
  strategy : Strategy
  finalAnswer : String
  confidence : Float
  trace : StampedTrace
  succeeded : Bool
  deriving DecidableEq, Repr, Inhabited

namespace StampedResult

def encode (r : StampedResult) : Json :=
  .object [("strategy", r.strategy.encode), ("finalAnswer", .string r.finalAnswer),
    ("confidence", .real r.confidence), ("trace", r.trace.encode), ("succeeded", .bool r.succeeded)]

def decode : Json.Decoder StampedResult :=
  Json.record ["strategy", "finalAnswer", "confidence", "trace", "succeeded"] fun m => do
    let strategy ← m.required "strategy" Strategy.decode
    let finalAnswer ← m.required "finalAnswer" .string
    let confidence ← m.required "confidence" .float
    let trace ← m.required "trace" StampedTrace.decode
    let succeeded ← m.required "succeeded" .bool
    return ⟨strategy, finalAnswer, confidence, trace, succeeded⟩

def ofResult (id : String) (timestamp : Timestamp) (r : Result) : StampedResult :=
  ⟨r.strategy, r.finalAnswer, r.confidence, .ofTrace id timestamp r.trace, r.succeeded⟩

end StampedResult

structure StampedNode where
  node : Search.Node
  createdAt : Timestamp
  deriving DecidableEq, Repr, Inhabited

namespace StampedNode

def score (s : Search.Score) : Json :=
  .real s.value

def encode (n : StampedNode) : Json :=
  .object [("id", .count n.node.id), ("parentId", (n.node.parent.map Json.count).getD .null),
    ("depth", .count n.node.depth), ("content", .string n.node.content),
    ("score", (n.node.score.map score).getD .null), ("createdAt", n.createdAt.encode)]

def decode : Json.Decoder StampedNode :=
  Json.record ["id", "parentId", "depth", "content", "score", "createdAt"] fun m => do
    let word := Json.Decoder.count Number.wordBound
    let id ← m.required "id" word
    let parent ← m.optional "parentId" word
    let depth ← m.required "depth" word
    let content ← m.required "content" .string
    let score ← m.optional "score" .float
    let createdAt ← m.required "createdAt" Timestamp.decode
    return ⟨⟨id, parent, depth, content, score.map Search.Score.ofFloat⟩, createdAt⟩

end StampedNode

structure StampedTree where
  nodes : List StampedNode
  deriving DecidableEq, Repr, Inhabited

namespace StampedTree

def encode (t : StampedTree) : Json :=
  .object [("nodes", .array (t.nodes.map StampedNode.encode))]

def decode : Json.Decoder StampedTree :=
  Json.record ["nodes"] fun m => do
    let nodes ← m.required "nodes" (.list StampedNode.decode)
    return ⟨nodes⟩

end StampedTree

end Deliberation.Archive
