import Deliberation.Number.UnitInterval
import Deliberation.Outcome.Trace
import Deliberation.Task.Strategy

namespace Deliberation

structure Result where
  strategy : Strategy
  finalAnswer : String
  confidence : Float
  trace : Trace
  succeeded : Bool
  deriving DecidableEq, Repr, Inhabited

namespace Result

def build (s : Strategy) (answer : String) (confidence : Float) (t : Trace) (succeeded : Bool) :
    Result where
  strategy := s
  finalAnswer := answer
  confidence := Number.normalize confidence
  trace := if t.isEmpty then t.record .halt "No reasoning steps were recorded" else t
  succeeded := succeeded

def success (s : Strategy) (answer : String) (confidence : Float) (t : Trace) : Result :=
  build s answer confidence t true

def partialAnswer (s : Strategy) (answer : String) (confidence : Float) (t : Trace) : Result :=
  build s answer confidence t false

def failure (s : Strategy) (reason : String) : Result :=
  build s "" 0.0 (Trace.empty.record .halt reason) false

def cancelled (s : Strategy) (t : Trace) : Result :=
  build s "" 0.0 (t.record .halt "Reasoning cancelled by caller") false

def degraded (s : Strategy) (answer : String) (t : Trace) (reason : String) : Result :=
  build s answer 0.0 (t.record .halt ("Reasoning aborted: " ++ reason)) false

end Result

end Deliberation
