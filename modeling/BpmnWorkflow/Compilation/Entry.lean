import BpmnWorkflow.Compilation.Diagnostics
import BpmnWorkflow.Compilation.LiveFlow

/-!
# Entry points

The first start event, in document order, with a live flow to a task or gateway wins, and its
first such flow leads to the entry element. Start events before it are reported as idle, those
after it as extra.
-/

namespace BpmnWorkflow

/-- The chosen start event and the element that it leads to. -/
structure Entry where
  start : Element
  first : Element
  deriving DecidableEq, Repr

namespace Entry

/-- The entry that `start` offers, once there is reported what there is to report about it. -/
def ofStart (d : Diagram) (start : Element) (diagnostics : Diagnostics) : Option Entry × Diagnostics :=
  let dead := d.deadFlows start.id ElementKind.isTaskLike
  let warned := diagnostics.warnAll (dead.map .unresolvedFlow)
  match d.liveFlows start.id ElementKind.isTaskLike with
  | [] => (none, warned.warn (.idleStart start.id))
  | [flow] => (some ⟨start, flow.target⟩, warned.note (.entryResolved start.id flow.target.id))
  | flow :: _ =>
    (some ⟨start, flow.target⟩,
      (warned.warn (.crowdedStart start.id)).note (.entryResolved start.id flow.target.id))

/-- Tries start events in order; once one is chosen the rest are only reported. -/
def choose (d : Diagram) : List Element → Diagnostics → Option Entry × Diagnostics
  | [], diagnostics => (none, diagnostics)
  | start :: rest, diagnostics =>
    match ofStart d start diagnostics with
    | (some entry, diagnostics) =>
      (some entry, diagnostics.warnAll (rest.map fun s => .extraStart start.id s.id))
    | (none, diagnostics) => choose d rest diagnostics

def resolve (d : Diagram) : Option Entry × Diagnostics := choose d d.startEvents {}

end Entry

end BpmnWorkflow
