import BpmnWorkflow.Catalogue
import BpmnWorkflow.Diagram.Element

/-!
# Diagrams

The elements and flows of a process in document order, indexed for the three questions that
compilation asks: which flows leave an element, which element an identifier names, and which
elements are start events. Each answer is what a scan over the tables would find.
-/

namespace BpmnWorkflow

inductive LookupError
  | taskNotFound (id : String)
  | duplicateTask (id : String) (count : Nat)
  deriving DecidableEq, Repr

namespace LookupError

def message : LookupError → String
  | taskNotFound id => s!"no task found with id {id}"
  | duplicateTask id count => s!"{count} elements share the id {id}"

end LookupError

/-- What a document contributes to a diagram. -/
inductive Part
  | element (e : Element)
  | flow (f : Flow)
  deriving DecidableEq, Repr

namespace Part

def element? : Part → Option Element
  | element e => some e
  | flow _ => none

def flow? : Part → Option Flow
  | flow f => some f
  | element _ => none

end Part

/-- Elements filed under their identifiers, flows under their sources, and the start events. -/
structure Diagram where
  elementTable : Catalogue Element (fun e => some e.id)
  flowTable : Catalogue Flow Flow.origin?
  starts : Array Nat
  starts_eq : starts.toList = positionsOf (·.kind == .startEvent) elementTable.entries.toList

namespace Diagram

def empty : Diagram := ⟨.empty, .empty, #[], rfl⟩

instance : Inhabited Diagram := ⟨empty⟩

def addElement (d : Diagram) (e : Element) : Diagram where
  elementTable := d.elementTable.add e
  flowTable := d.flowTable
  starts := if e.kind == .startEvent then d.starts.push d.elementTable.entries.size else d.starts
  starts_eq := by
    rw [Catalogue.entries_add, positionsOf_append_singleton, ← d.starts_eq]
    split <;> simp

def addFlow (d : Diagram) (f : Flow) : Diagram :=
  { d with flowTable := d.flowTable.add f }

def addPart (d : Diagram) : Part → Diagram
  | .element e => d.addElement e
  | .flow f => d.addFlow f

def ofParts (parts : List Part) : Diagram := parts.foldl addPart empty

def elements (d : Diagram) : List Element := d.elementTable.entries.toList

def flows (d : Diagram) : List Flow := d.flowTable.entries.toList

def startEvents (d : Diagram) : List Element :=
  d.starts.toList.filterMap (d.elementTable.entries[·]?)

/-- The flows that leave `id`; a flow without a source leaves nothing. -/
def outgoing (d : Diagram) (id : String) : List Flow := d.flowTable.lookup id

/-- The one element of an accepted kind that `id` names. Elements of other kinds do not count. -/
def resolve (d : Diagram) (id : String) (accept : ElementKind → Bool) : Except LookupError Element :=
  match (d.elementTable.lookup id).filter (accept ·.kind) with
  | [] => .error (.taskNotFound id)
  | first :: rest =>
    let extra := rest.length
    if extra > 0 then .error (.duplicateTask id (extra + 1)) else .ok first

/-! ### The index answers as a scan would -/

theorem startEvents_eq_filter (d : Diagram) :
    d.startEvents = d.elements.filter (·.kind == .startEvent) := by
  rw [startEvents, d.starts_eq, elements, ← filterMap_positionsOf]
  simp

theorem outgoing_eq_filter (d : Diagram) (id : String) :
    d.outgoing id = d.flows.filter (·.origin? == some id) :=
  d.flowTable.lookup_eq_filter id

theorem lookup_elementTable (d : Diagram) (id : String) :
    d.elementTable.lookup id = d.elements.filter (·.id == id) := by
  rw [Catalogue.lookup_eq_filter]
  rfl

end Diagram

end BpmnWorkflow
