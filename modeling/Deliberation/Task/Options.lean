import Deliberation.Number.UnitInterval
import Deliberation.Task.Strategy

namespace Deliberation

structure Options where
  strategy : Option Strategy := none
  maxIterations : Nat := 5
  maxRounds : Nat := 3
  maxDepth : Nat := 3
  branchFactor : Nat := 3
  beamWidth : Nat := 2
  debaterCount : Nat := 3
  confidenceFloor : Float := 0.9
  callTimeoutMs : Nat := 60000
  deriving DecidableEq, Repr, Inhabited

namespace Options

def default : Options := {}

def withStrategy (o : Options) (s : Strategy) : Options :=
  { o with strategy := some s }

def withMaxIterations (o : Options) (n : Nat) : Options :=
  { o with maxIterations := max n 1 }

def withMaxRounds (o : Options) (n : Nat) : Options :=
  { o with maxRounds := max n 1 }

def withMaxDepth (o : Options) (n : Nat) : Options :=
  { o with maxDepth := max n 1 }

def withBranchFactor (o : Options) (n : Nat) : Options :=
  { o with branchFactor := max n 1 }

def withBeamWidth (o : Options) (n : Nat) : Options :=
  { o with beamWidth := max n 1 }

def withDebaterCount (o : Options) (n : Nat) : Options :=
  { o with debaterCount := max n 1 }

def withConfidenceFloor (o : Options) (x : Float) : Options :=
  { o with confidenceFloor := Number.clamp x }

def withCallTimeoutMs (o : Options) (n : Nat) : Options :=
  { o with callTimeoutMs := max n 1 }

def encode (o : Options) : Json :=
  .object <| Json.present "strategy" (o.strategy.map Strategy.encode) ++
    [("maxIterations", .count o.maxIterations), ("maxRounds", .count o.maxRounds),
      ("maxDepth", .count o.maxDepth), ("branchFactor", .count o.branchFactor),
      ("beamWidth", .count o.beamWidth), ("debaterCount", .count o.debaterCount),
      ("confidenceFloor", .real o.confidenceFloor), ("callTimeoutMs", .count o.callTimeoutMs)]

def fieldNames : List String :=
  ["strategy", "maxIterations", "maxRounds", "maxDepth", "branchFactor", "beamWidth",
    "debaterCount", "confidenceFloor", "callTimeoutMs"]

def decode : Json.Decoder Options :=
  Json.record fieldNames fun m => do
    let word := Json.Decoder.count Number.wordBound
    let strategy ← m.orElse "strategy" default.strategy (.optional Strategy.decode)
    let maxIterations ← m.orElse "maxIterations" default.maxIterations word
    let maxRounds ← m.orElse "maxRounds" default.maxRounds word
    let maxDepth ← m.orElse "maxDepth" default.maxDepth word
    let branchFactor ← m.orElse "branchFactor" default.branchFactor word
    let beamWidth ← m.orElse "beamWidth" default.beamWidth word
    let debaterCount ← m.orElse "debaterCount" default.debaterCount word
    let confidenceFloor ← m.orElse "confidenceFloor" default.confidenceFloor .float
    let callTimeoutMs ← m.orElse "callTimeoutMs" default.callTimeoutMs word
    return ⟨strategy, maxIterations, maxRounds, maxDepth, branchFactor, beamWidth, debaterCount,
      confidenceFloor, callTimeoutMs⟩

end Options

end Deliberation
