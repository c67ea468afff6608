import BpmnWorkflow.Workflow.Basic

/-!
# Comparison

Two workflows are the same when name, entry point and step table agree; the order of the steps
does not count, the order of the transitions within a step does.
-/

namespace BpmnWorkflow

namespace Workflow

/-- Equal sizes, and every step of `a` stands in `b` under its identifier. -/
def same (a b : Workflow) : Bool :=
  a.name == b.name && a.entryPoint == b.entryPoint && a.size == b.size &&
    a.steps.entries.all fun (id, s) => b.step? id == some s

end Workflow

end BpmnWorkflow
