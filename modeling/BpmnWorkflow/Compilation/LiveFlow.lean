import BpmnWorkflow.Diagram.Basic

/-!
# Live flows

A flow is live when its target names exactly one element of an accepted kind. Every other flow
out of an element is dead and has a reason.
-/

namespace BpmnWorkflow

structure LiveFlow where
  flow : Flow
  target : Element
  deriving DecidableEq, Repr

namespace LiveFlow

def label? (f : LiveFlow) : Option String := f.flow.name

end LiveFlow

namespace Diagram

def liveFlows (d : Diagram) (id : String) (accept : ElementKind → Bool) : List LiveFlow :=
  (d.outgoing id).filterMap fun f =>
    match d.resolve f.target accept with
    | .ok target => some ⟨f, target⟩
    | .error _ => none

/-- Why each of the other flows out of `id` is dead, in document order. -/
def deadFlows (d : Diagram) (id : String) (accept : ElementKind → Bool) : List LookupError :=
  (d.outgoing id).filterMap fun f =>
    match d.resolve f.target accept with
    | .ok _ => none
    | .error failure => some failure

theorem length_liveFlows_le (d : Diagram) (id : String) (accept : ElementKind → Bool) :
    (d.liveFlows id accept).length ≤ (d.outgoing id).length :=
  List.length_filterMap_le _ _

end Diagram

end BpmnWorkflow
