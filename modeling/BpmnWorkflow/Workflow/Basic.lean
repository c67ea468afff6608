import BpmnWorkflow.OrderedMap

/-!
# Workflows

A workflow is a flat table of steps. Steps name each other by identifier only, through their
transitions, so a process that loops is a finite value.
-/

namespace BpmnWorkflow

/-- One way from a step to the next; `answer` is the choice that it stands for. -/
structure Transition where
  stepName : String
  buttonText : String
  answer : Option String := none
  deriving DecidableEq, Repr, Inhabited

inductive TaskType
  | aiExecuted
  | guideline
  deriving DecidableEq, Repr, Inhabited

namespace TaskType

def label : TaskType → String
  | aiExecuted => "ai-executed"
  | guideline => "guideline"

def ofLabel? : String → Option TaskType
  | "ai-executed" => some aiExecuted
  | "guideline" => some guideline
  | _ => none

@[simp] theorem ofLabel?_label (t : TaskType) : ofLabel? t.label = some t := by
  cases t <;> rfl

end TaskType

/-- A task has one way forward, a condition one way per answer, an end none. -/
inductive Step
  | task (title prompt : String) (taskType : TaskType) (outgoing : Transition)
  | condition (title prompt : String) (outgoing : List Transition)
  | terminal (title : String)
  deriving DecidableEq, Repr, Inhabited

namespace Step

def title : Step → String
  | task title .. => title
  | condition title .. => title
  | terminal title => title

def transitions : Step → List Transition
  | task _ _ _ outgoing => [outgoing]
  | condition _ _ outgoing => outgoing
  | terminal _ => []

def isTerminal : Step → Bool
  | terminal _ => true
  | _ => false

def mapTransitions (f : Transition → Transition) : Step → Step
  | task title prompt taskType outgoing => task title prompt taskType (f outgoing)
  | condition title prompt outgoing => condition title prompt (outgoing.map f)
  | terminal title => terminal title

def mapTransitionsM {m : Type → Type} [Monad m] (f : Transition → m Transition) : Step → m Step
  | task title prompt taskType outgoing => task title prompt taskType <$> f outgoing
  | condition title prompt outgoing => condition title prompt <$> outgoing.mapM f
  | terminal title => pure (terminal title)

/-- Changes the transition at `index`, which must exist. -/
def modifyTransition? (index : Nat) (f : Transition → Transition) : Step → Option Step
  | task title prompt taskType outgoing =>
    if index = 0 then some (task title prompt taskType (f outgoing)) else none
  | condition title prompt outgoing =>
    if index < outgoing.length then some (condition title prompt (outgoing.modify index f)) else none
  | terminal _ => none

@[simp] theorem title_mapTransitions (f : Transition → Transition) (s : Step) :
    (s.mapTransitions f).title = s.title := by
  cases s <;> rfl

@[simp] theorem transitions_mapTransitions (f : Transition → Transition) (s : Step) :
    (s.mapTransitions f).transitions = s.transitions.map f := by
  cases s <;> rfl

end Step

structure Workflow where
  name : String
  entryPoint : String
  steps : OrderedMap Step
  deriving DecidableEq

namespace Workflow

def named (name : String) : Workflow := ⟨name, "", .empty⟩

instance : Inhabited Workflow := ⟨named ""⟩

def step? (w : Workflow) (id : String) : Option Step := w.steps.find? id

def entryStep? (w : Workflow) : Option Step := w.steps.find? w.entryPoint

def size (w : Workflow) : Nat := w.steps.size

def isEmpty (w : Workflow) : Bool := w.steps.isEmpty

def insertStep (w : Workflow) (id : String) (step : Step) : Workflow :=
  { w with steps := w.steps.insert id step }

def eraseStep (w : Workflow) (id : String) : Workflow :=
  { w with steps := w.steps.erase id }

end Workflow

end BpmnWorkflow
