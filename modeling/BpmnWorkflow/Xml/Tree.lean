/-!
# Document trees

Elements with their attributes and children, and what stands between them. Text that is not
interrupted by anything else is one node.
-/

namespace BpmnWorkflow.Xml

/-- A name as written, split at its colon; without one the qualifier is empty. -/
structure Name where
  qualifier : String
  localName : String
  deriving DecidableEq, Repr, Inhabited

structure Attribute where
  name : Name
  value : String
  deriving DecidableEq, Repr, Inhabited

inductive Node
  | element (name : Name) (attributes : List Attribute) (children : List Node)
  | text (content : String)
  | comment (content : String)
  | instruction (target content : String)
  deriving Repr, Inhabited

/-- The root element with the comments and instructions around it. -/
structure Document where
  nodes : List Node
  deriving Repr, Inhabited

def attribute? (attributes : List Attribute) (key : String) : Option String :=
  (attributes.find? (fun a => a.name = ⟨"", key⟩)).map (·.value)

end BpmnWorkflow.Xml
