namespace Deliberation

inductive Stage where
  | think
  | act
  | observe
  | critique
  | expand
  | evaluate
  | argue
  | judge
  | halt
  deriving DecidableEq, Repr, Inhabited

namespace Stage

def all : List Stage :=
  [think, act, observe, critique, expand, evaluate, argue, judge, halt]

def name : Stage → String
  | think => "think"
  | act => "act"
  | observe => "observe"
  | critique => "critique"
  | expand => "expand"
  | evaluate => "evaluate"
  | argue => "argue"
  | judge => "judge"
  | halt => "halt"

def ofName? (s : String) : Option Stage :=
  all.find? fun stage => stage.name == s

theorem ofName?_name (s : Stage) : ofName? s.name = some s := by
  cases s <;> decide

end Stage

structure Step where
  stage : Stage
  content : String
  deriving DecidableEq, Repr, Inhabited

structure Trace where
  steps : List Step
  deriving DecidableEq, Repr, Inhabited

namespace Trace

def empty : Trace :=
  ⟨[]⟩

def record (t : Trace) (stage : Stage) (content : String) : Trace :=
  ⟨t.steps ++ [⟨stage, content⟩]⟩

@[simp]
theorem steps_record (t : Trace) (stage : Stage) (content : String) :
    (t.record stage content).steps = t.steps ++ [⟨stage, content⟩] :=
  rfl

def recordAll (t : Trace) (stage : Stage) (contents : List String) : Trace :=
  ⟨t.steps ++ contents.map (Step.mk stage)⟩

def stepsIn (t : Trace) (stage : Stage) : List Step :=
  t.steps.filter fun s => s.stage == stage

def count (t : Trace) (stage : Stage) : Nat :=
  (t.stepsIn stage).length

@[simp]
theorem count_record (t : Trace) (stage stage' : Stage) (content : String) :
    (t.record stage' content).count stage = t.count stage + if stage' = stage then 1 else 0 := by
  by_cases h : stage' = stage <;> simp [count, stepsIn, List.filter_append, h]

def last? (t : Trace) : Option Step :=
  t.steps.getLast?

def isEmpty (t : Trace) : Bool :=
  t.steps.isEmpty

end Trace

end Deliberation
