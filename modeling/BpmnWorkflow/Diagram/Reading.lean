import BpmnWorkflow.Diagram.Basic
import BpmnWorkflow.Text.Blank
import BpmnWorkflow.Xml.Document

/-!
# Reading a diagram

Elements and flows are recognized by the local names of their tags, at any depth and under any
qualifier, in document order.
-/

namespace BpmnWorkflow

open Xml (Attribute Name Node)

def nonEmptyAttribute? (attributes : List Attribute) (key : String) : Option String :=
  (Xml.attribute? attributes key).filter (!·.isEmpty)

def Flow.ofAttributes (attributes : List Attribute) : Flow where
  id := nonEmptyAttribute? attributes "id"
  name := nonEmptyAttribute? attributes "name"
  source := (Xml.attribute? attributes "sourceRef").getD ""
  target := (Xml.attribute? attributes "targetRef").getD ""

def isDocumentation : Node → Bool
  | .element name _ _ => name.localName == "documentation"
  | _ => false

/-- The text that the first documentation child begins with, trimmed. -/
def documentation? (children : List Node) : Option String :=
  match children.find? isDocumentation with
  | some (.element _ _ (.text content :: _)) => Text.trimmed? content
  | _ => none

def Element.ofTag (kind : ElementKind) (attributes : List Attribute) (children : List Node) : Element where
  id := (nonEmptyAttribute? attributes "id").getD (if kind = .startEvent then defaultStartId else "")
  name := nonEmptyAttribute? attributes "name"
  kind := kind
  documentation := documentation? children

def Part.ofTag? (name : Name) (attributes : List Attribute) (children : List Node) : Option Part :=
  if name.localName = Flow.tag then some (.flow (.ofAttributes attributes))
  else (ElementKind.ofTag? name.localName).map fun kind => .element (.ofTag kind attributes children)

mutual

def Part.ofNode : Node → List Part
  | .element name attributes children =>
    (Part.ofTag? name attributes children).toList ++ Part.ofNodes children
  | .text _ | .comment _ | .instruction _ _ => []

def Part.ofNodes : List Node → List Part
  | [] => []
  | node :: rest => Part.ofNode node ++ Part.ofNodes rest

end

namespace Diagram

def ofDocument (document : Xml.Document) : Diagram := ofParts (Part.ofNodes document.nodes)

def parse? (text : String) : Option Diagram := (Xml.Document.parse? text).map ofDocument

end Diagram

end BpmnWorkflow
