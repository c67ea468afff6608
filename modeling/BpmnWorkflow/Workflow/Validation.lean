import BpmnWorkflow.Workflow.Basic

/-!
# Closed workflows

A workflow is closed when its entry point and every transition name one of its steps.
`danglingTransitions` lists the transitions that do not.
-/

namespace BpmnWorkflow

structure DanglingTransition where
  source : String
  target : String
  deriving DecidableEq, Repr

namespace DanglingTransition

def text (d : DanglingTransition) : String :=
  s!"transition from step {d.source} points to unknown step {d.target}"

end DanglingTransition

namespace Workflow

def stepTargets (w : Workflow) : List String :=
  w.steps.values.flatMap (fun s => s.transitions.map (·.stepName))

def danglingTransitions (w : Workflow) : List DanglingTransition :=
  w.steps.entries.flatMap fun (id, s) =>
    (s.transitions.filter (fun t => !w.steps.contains t.stepName)).map (fun t => ⟨id, t.stepName⟩)

def isClosed (w : Workflow) : Bool :=
  w.steps.contains w.entryPoint && w.danglingTransitions.isEmpty

end Workflow

end BpmnWorkflow
