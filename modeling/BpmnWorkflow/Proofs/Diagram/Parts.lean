import BpmnWorkflow.Diagram.Reading

/-!
# The parts of a diagram

The tables of a diagram are the parts of its document in order, and every part is what one element of
the document is to the diagram. So a start event always has an identifier.
-/

namespace BpmnWorkflow

open Xml (Node)

mutual

theorem Part.exists_of_mem_ofNode {part : Part} {node : Node} (member : part ∈ Part.ofNode node) :
    ∃ name attributes children, Part.ofTag? name attributes children = some part := by
  cases node with
  | element name attributes children =>
    rw [Part.ofNode, List.mem_append, Option.mem_toList] at member
    rcases member with own | inner
    · exact ⟨name, attributes, children, own⟩
    · exact Part.exists_of_mem_ofNodes inner
  | text | comment | instruction =>
    rw [Part.ofNode] at member
    cases member

theorem Part.exists_of_mem_ofNodes {part : Part} {nodes : List Node} (member : part ∈ Part.ofNodes nodes) :
    ∃ name attributes children, Part.ofTag? name attributes children = some part := by
  cases nodes with
  | nil =>
    rw [Part.ofNodes] at member
    cases member
  | cons node rest =>
    rw [Part.ofNodes, List.mem_append] at member
    exact member.elim Part.exists_of_mem_ofNode Part.exists_of_mem_ofNodes

end

theorem Element.id_ofTag_ne_empty (attributes : List Xml.Attribute) (children : List Node) :
    (Element.ofTag .startEvent attributes children).id ≠ "" := by
  rw [Element.ofTag, nonEmptyAttribute?, if_pos rfl]
  cases given : (Xml.attribute? attributes "id").filter (!·.isEmpty) with
  | none => exact (by decide : Element.defaultStartId ≠ "")
  | some id =>
    rw [Option.filter_eq_some_iff] at given
    rintro rfl
    cases given.2

namespace Diagram

theorem elements_foldl_addPart (d : Diagram) (parts : List Part) :
    (parts.foldl addPart d).elements = d.elements ++ parts.filterMap Part.element? := by
  induction parts generalizing d with
  | nil => simp
  | cons part rest ih =>
    rw [List.foldl_cons, ih, List.filterMap_cons]
    cases part <;> simp [addPart, addElement, addFlow, elements, Part.element?]

theorem flows_foldl_addPart (d : Diagram) (parts : List Part) :
    (parts.foldl addPart d).flows = d.flows ++ parts.filterMap Part.flow? := by
  induction parts generalizing d with
  | nil => simp
  | cons part rest ih =>
    rw [List.foldl_cons, ih, List.filterMap_cons]
    cases part <;> simp [addPart, addElement, addFlow, flows, Part.flow?]

theorem elements_ofParts (parts : List Part) : (ofParts parts).elements = parts.filterMap Part.element? :=
  elements_foldl_addPart empty parts

theorem flows_ofParts (parts : List Part) : (ofParts parts).flows = parts.filterMap Part.flow? :=
  flows_foldl_addPart empty parts

theorem id_ne_empty_of_startEvent {document : Xml.Document} {e : Element} (member : e ∈ (ofDocument document).elements)
    (start : e.kind = .startEvent) : e.id ≠ "" := by
  rw [ofDocument, elements_ofParts, List.mem_filterMap] at member
  obtain ⟨part, present, found⟩ := member
  obtain ⟨name, attributes, children, tagged⟩ := Part.exists_of_mem_ofNodes present
  rw [Part.ofTag?] at tagged
  split at tagged
  · obtain rfl := Option.some.inj tagged
    cases found
  · obtain ⟨kind, _, rfl⟩ := Option.map_eq_some_iff.mp tagged
    obtain rfl := Option.some.inj found
    obtain rfl : kind = .startEvent := start
    exact Element.id_ofTag_ne_empty attributes children

end Diagram

end BpmnWorkflow
