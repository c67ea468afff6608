import BpmnWorkflow.Diagram.Basic
import BpmnWorkflow.Workflow.Validation

/-!
# Notices

What a compilation reports while it runs: warnings about the anomalies that it works around, and
the events that a log shows. They are kept in the order in which they happen.
-/

namespace BpmnWorkflow

/-- An anomaly in a diagram that compilation works around. -/
inductive Warning
  | unresolvedFlow (failure : LookupError)
  | idleStart (start : String)
  | crowdedStart (start : String)
  | extraStart (kept ignored : String)
  | idleTask (task : String)
  | crowdedTask (task : String)
  | idleGateway (gateway : String)
  | bypassedGateway (gateway : String)
  | gatewayRing (gateway : String)
  | danglingTransition (transition : DanglingTransition)
  deriving DecidableEq, Repr

namespace Warning

def text : Warning → String
  | unresolvedFlow failure => s!"error while searching task: {failure.message}"
  | idleStart start => s!"no flow going out of start event {start}, ignoring it"
  | crowdedStart start => s!"multiple outgoing flows from start event {start}, keeping only the first one"
  | extraStart kept ignored =>
    s!"multiple start events detected, keeping only the first ({kept}), ignoring {ignored}"
  | idleTask task => s!"no flow going out of task {task}, adding EndEvent after it"
  | crowdedTask task => s!"multiple outgoing flows from task {task}, keeping only the first one"
  | idleGateway gateway => s!"no flow going out of gateway {gateway}, transform it into endEvent"
  | bypassedGateway gateway => s!"single outgoing flow from the gateway {gateway}, skipping the gateway"
  | gatewayRing gateway =>
    s!"gateway {gateway} only leads back to itself through single-flow gateways, transform it into endEvent"
  | danglingTransition transition => transition.text

end Warning

inductive Notice
  | warning (w : Warning)
  | entryResolved (start entry : String)
  | visiting (id : String) (kind : ElementKind)
  | redirected (source target : String) (count : Nat)
  | alreadyRegistered (id : String)
  | compiled (workflow start : String) (steps warnings : Nat)
  deriving DecidableEq, Repr

namespace Notice

def warning? : Notice → Option Warning
  | warning w => some w
  | _ => none

def warnings (notices : List Notice) : List Warning := notices.filterMap warning?

@[simp] theorem warnings_append (a b : List Notice) :
    warnings (a ++ b) = warnings a ++ warnings b :=
  List.filterMap_append

@[simp] theorem warnings_map_warning (ws : List Warning) : warnings (ws.map warning) = ws := by
  simp [warnings, List.filterMap_map, Function.comp_def, warning?]

end Notice

end BpmnWorkflow
