import Deliberation.Outcome.Result
import Deliberation.Proofs.Number.Order

namespace Deliberation

open Number

namespace Trace

def Running (t : Trace) : Prop :=
  t.count .halt = 0

theorem running_empty : empty.Running :=
  rfl

theorem Running.record {t : Trace} (h : t.Running) {stage : Stage} (hs : stage ≠ .halt)
    (content : String) : (t.record stage content).Running := by
  rw [Running, count_record, if_neg hs]
  exact h

theorem Running.recordAll {t : Trace} (h : t.Running) {stage : Stage} (hs : stage ≠ .halt)
    (contents : List String) : (t.recordAll stage contents).Running := by
  rw [Running, count, stepsIn, Trace.recordAll, List.filter_append, List.length_append]
  have hn : (contents.map (Step.mk stage)).filter (fun s => s.stage == .halt) = [] := by
    simp [List.filter_map, hs]
  rw [hn]
  exact h

theorem record_ne_nil (t : Trace) (stage : Stage) (content : String) :
    (t.record stage content).steps ≠ [] := by
  simp

end Trace

namespace Result

structure Sound (r : Result) : Prop where
  inUnit : InUnit r.confidence
  nonempty : r.trace.steps ≠ []
  succeeded : r.succeeded = true → r.trace.count .halt = 0
  failed : r.succeeded = false → r.trace.count .halt = 1 ∧
    r.trace.last?.map Step.stage = some .halt ∧ r.confidence ≤ 0.5

theorem trace_build {s : Strategy} {answer : String} {x : Float} {t : Trace} {succeeded : Bool}
    (h : t.steps ≠ []) : (build s answer x t succeeded).trace = t :=
  if_neg (by simpa [Trace.isEmpty] using h)

theorem sound_success {s : Strategy} {answer : String} {x : Float} {t : Trace}
    (h : t.Running) (hn : t.steps ≠ []) : (success s answer x t).Sound := by
  have ht : (success s answer x t).trace = t := trace_build hn
  refine ⟨inUnit_normalize x, ?_, fun _ => ?_, fun hf => Bool.noConfusion hf⟩
  · rw [ht]
    exact hn
  · rw [ht]
    exact h

theorem sound_halted {s : Strategy} {answer reason : String} {x : Float} {t : Trace}
    (h : t.Running) (hx : normalize x ≤ 0.5) :
    (partialAnswer s answer x (t.record .halt reason)).Sound := by
  have ht : (partialAnswer s answer x (t.record .halt reason)).trace = t.record .halt reason :=
    trace_build (Trace.record_ne_nil _ _ _)
  refine ⟨inUnit_normalize x, ?_, fun hf => Bool.noConfusion hf, fun _ => ⟨?_, ?_, hx⟩⟩
  · rw [ht]
    exact Trace.record_ne_nil t _ _
  · rw [ht, Trace.count_record, show t.count .halt = 0 from h]
    rfl
  · rw [ht, Trace.last?, Trace.steps_record, List.getLast?_append]
    rfl

theorem sound_cancelled {s : Strategy} {t : Trace} (h : t.Running) : (cancelled s t).Sound :=
  sound_halted h (by decide)

theorem sound_degraded {s : Strategy} {answer reason : String} {t : Trace} (h : t.Running) :
    (degraded s answer t reason).Sound :=
  sound_halted h (by decide)

theorem sound_failure (s : Strategy) (reason : String) : (failure s reason).Sound :=
  sound_halted Trace.running_empty (by decide)

end Result

end Deliberation
