import BpmnWorkflow.Outline
import BpmnWorkflow.Workflow.Basic

/-!
# Outlines of workflows

The rows of a workflow, a step and a transition, in the order in which every format writes them.
-/

namespace BpmnWorkflow

/-- An absent answer has no row. -/
def Transition.outline (t : Transition) : Outline :=
  .table <| [("stepName", .text t.stepName), ("buttonText", .text t.buttonText)] ++
    t.answer.toList.map fun answer => ("answer", .text answer)

namespace Step

def typeLabel : Step → String
  | task .. => "task"
  | condition .. => "condition"
  | terminal _ => "end"

def rows : Step → List (String × Outline)
  | task title prompt taskType outgoing =>
    [("title", .text title), ("prompt", .text prompt), ("taskType", .text taskType.label),
      ("outgoing", outgoing.outline)]
  | condition title prompt outgoing =>
    [("title", .text title), ("prompt", .text prompt),
      ("outgoing", .list (outgoing.map Transition.outline))]
  | terminal title => [("title", .text title)]

def outline (s : Step) : Outline := .table (("type", .text s.typeLabel) :: s.rows)

end Step

def Workflow.outline (w : Workflow) : Outline :=
  .table [("name", .text w.name), ("entryPoint", .text w.entryPoint),
    ("steps", .table (w.steps.mapValues Step.outline).entries)]

end BpmnWorkflow
