/-!
# Elements and flows of a diagram

The flow nodes that a workflow is made of, told apart by tag, and the sequence flows between them.
-/

namespace BpmnWorkflow

/-- The kinds of flow nodes that can become steps, and start events. -/
inductive ElementKind
  | startEvent
  | task
  | userTask
  | serviceTask
  | exclusiveGateway
  | endEvent
  deriving DecidableEq, Repr, Inhabited

namespace ElementKind

def tag : ElementKind → String
  | startEvent => "startEvent"
  | task => "task"
  | userTask => "userTask"
  | serviceTask => "serviceTask"
  | exclusiveGateway => "exclusiveGateway"
  | endEvent => "endEvent"

/-- Exact in case: `userTask` is a kind, `usertask` is none. -/
def ofTag? : String → Option ElementKind
  | "startEvent" => some startEvent
  | "task" => some task
  | "userTask" => some userTask
  | "serviceTask" => some serviceTask
  | "exclusiveGateway" => some exclusiveGateway
  | "endEvent" => some endEvent
  | _ => none

@[simp] theorem ofTag?_tag (k : ElementKind) : ofTag? k.tag = some k := by
  cases k <;> rfl

/-- Tasks of any flavour and exclusive gateways: what a start event may lead to. -/
def isTaskLike : ElementKind → Bool
  | task | userTask | serviceTask | exclusiveGateway => true
  | startEvent | endEvent => false

def isFlowTarget (k : ElementKind) : Bool := k.isTaskLike || k == endEvent

def entryTags : List String := ["task", "userTask", "serviceTask", "exclusiveGateway"]

end ElementKind

structure Element where
  id : String
  name : Option String
  kind : ElementKind
  documentation : Option String
  deriving DecidableEq, Repr, Inhabited

namespace Element

/-- The identifier of a start event that carries none. -/
def defaultStartId : String := "start"

def title (e : Element) : String := e.name.getD ""

def prompt (e : Element) : String := e.documentation.getD ""

end Element

structure Flow where
  id : Option String
  name : Option String
  source : String
  target : String
  deriving DecidableEq, Repr, Inhabited

namespace Flow

def tag : String := "sequenceFlow"

/-- A flow is filed under its source; one without a source leaves no element. -/
def origin? (f : Flow) : Option String := if f.source.isEmpty then none else some f.source

end Flow

end BpmnWorkflow
