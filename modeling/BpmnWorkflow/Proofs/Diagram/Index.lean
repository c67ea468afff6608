import BpmnWorkflow.Proofs.Diagram.Lookup
import BpmnWorkflow.Proofs.Diagram.Parts
import BpmnWorkflow.Proofs.Positions

/-!
# The index of a diagram

However elements and flows come in, the index holds the positions that a scan over the tables would find and answers
as such a scan would: `ofDocument_answersAsScan`, for the tables that a scan over the tree of a document gives.
-/

namespace BpmnWorkflow

/-! ### Positions -/

/-- The positions of the entries with a property: each of them once, in order, and no other. -/
structure Locates {α : Type} (positions : List Nat) (property : α → Prop) (entries : List α) : Prop where
  ascending : positions.Pairwise (· < ·)
  mem_iff : ∀ i, i ∈ positions ↔ ∃ h : i < entries.length, property entries[i]

section Positions

variable {α : Type} {p : α → Bool}

theorem locates_positionsOf {property : α → Prop} (entries : List α) (same : ∀ a, p a = true ↔ property a) :
    Locates (positionsOf p entries) property entries where
  ascending := pairwise_positionsOf entries
  mem_iff i := by
    rw [mem_positionsOf_iff]
    exact exists_congr fun _ => same _

end Positions

/-! ### The tree of a document -/

namespace Xml

mutual

def Node.descendants : Node → List Node
  | .element name attributes children => .element name attributes children :: Node.descendantsOfAll children
  | .text content => [.text content]
  | .comment content => [.comment content]
  | .instruction target content => [.instruction target content]

def Node.descendantsOfAll : List Node → List Node
  | [] => []
  | node :: rest => node.descendants ++ Node.descendantsOfAll rest

end

def Document.descendants (document : Document) : List Node := Node.descendantsOfAll document.nodes

end Xml

namespace Part

open Xml (Node)

def ofNode? : Node → Option Part
  | .element name attributes children => ofTag? name attributes children
  | .text _ | .comment _ | .instruction _ _ => none

mutual

theorem ofNode_eq_filterMap : ∀ node : Node, ofNode node = node.descendants.filterMap ofNode?
  | .element name attributes children => by
    rw [ofNode, Node.descendants, List.filterMap_cons, ofNodes_eq_filterMap children, ofNode?]
    cases ofTag? name attributes children <;> rfl
  | .text _ | .comment _ | .instruction _ _ => rfl

theorem ofNodes_eq_filterMap : ∀ nodes : List Node, ofNodes nodes = (Node.descendantsOfAll nodes).filterMap ofNode?
  | [] => rfl
  | node :: rest => by
    rw [ofNodes, Node.descendantsOfAll, List.filterMap_append, ofNode_eq_filterMap node, ofNodes_eq_filterMap rest]

end

end Part

namespace Diagram

/-! ### Answers -/

/-- The diagram has these tables and answers as scans over them would, by the positions that they would find. -/
structure AnswersAsScan (d : Diagram) (elements : List Element) (flows : List Flow) : Prop where
  elements_eq : d.elements = elements
  flows_eq : d.flows = flows
  resolve_one : ∀ id accept e, d.resolve id accept = .ok e ↔
    elements.filter (fun x => x.id = id ∧ accept x.kind = true) = [e]
  resolve_none : ∀ id accept, d.resolve id accept = .error (.taskNotFound id) ↔
    ∀ x ∈ elements, ¬ (x.id = id ∧ accept x.kind = true)
  resolve_several : ∀ id accept n, d.resolve id accept = .error (.duplicateTask id n) ↔
    2 ≤ n ∧ elements.countP (fun x => x.id = id ∧ accept x.kind = true) = n
  outgoing_eq : ∀ id, d.outgoing id = if id = "" then [] else flows.filter (·.source = id)
  startEvents_eq : d.startEvents = elements.filter (·.kind = .startEvent)
  idPositions : ∀ id, Locates (d.elementTable.positions.getD id #[]).toList (·.id = id) elements
  sourcePositions : ∀ id, Locates (d.flowTable.positions.getD id #[]).toList (fun f => f.source = id ∧ id ≠ "") flows
  startPositions : Locates d.starts.toList (·.kind = .startEvent) elements

section Resolve

variable {d : Diagram} {id : String} {accept : ElementKind → Bool}

theorem named_eq_filter (d : Diagram) (id : String) (accept : ElementKind → Bool) :
    d.named id accept = d.elements.filter (fun x => x.id = id ∧ accept x.kind = true) := by
  refine List.filter_congr fun x _ => ?_
  rw [Bool.decide_and, Bool.decide_eq_true]
  rfl

theorem resolve_eq_taskNotFound_iff :
    d.resolve id accept = .error (.taskNotFound id) ↔ d.named id accept = [] := by
  rw [resolve, filter_lookup]
  rcases d.named id accept with _ | ⟨x, _ | ⟨y, rest⟩⟩ <;> simp

theorem resolve_eq_duplicateTask_iff {n : Nat} :
    d.resolve id accept = .error (.duplicateTask id n) ↔ 2 ≤ n ∧ (d.named id accept).length = n := by
  rw [resolve, filter_lookup]
  rcases d.named id accept with _ | ⟨x, _ | ⟨y, rest⟩⟩
  · simp
    omega
  · simp
    omega
  · simp
    omega

end Resolve

theorem origin?_eq_some_iff {f : Flow} {id : String} : f.origin? = some id ↔ f.source = id ∧ id ≠ "" := by
  rw [Flow.origin?]
  split
  · rename_i blank
    rw [String.isEmpty_iff] at blank
    refine iff_of_false (Option.some_ne_none id).symm ?_
    rintro ⟨rfl, given⟩
    exact given blank
  · rename_i given
    rw [String.isEmpty_iff] at given
    rw [Option.some.injEq]
    exact ⟨fun same => ⟨same, same ▸ given⟩, And.left⟩

theorem answersAsScan (d : Diagram) : d.AnswersAsScan d.elements d.flows where
  elements_eq := rfl
  flows_eq := rfl
  resolve_one id accept e := by rw [resolve_eq_ok_iff, named_eq_filter]
  resolve_none id accept := by
    rw [resolve_eq_taskNotFound_iff, named_eq_filter, List.filter_eq_nil_iff]
    simp only [decide_eq_true_eq]
  resolve_several id accept n := by
    rw [resolve_eq_duplicateTask_iff, named_eq_filter, List.countP_eq_length_filter]
  outgoing_eq id := by
    split
    · rename_i blank
      rw [blank, outgoing_empty]
    · rename_i given
      exact outgoing_of_ne_empty d given
  startEvents_eq := d.startEvents_eq_filter
  idPositions id := by
    rw [d.elementTable.positions_eq id]
    exact locates_positionsOf d.elements fun e => by rw [beq_iff_eq, Option.some.injEq]
  sourcePositions id := by
    rw [d.flowTable.positions_eq id]
    exact locates_positionsOf d.flows fun f => by rw [beq_iff_eq, origin?_eq_some_iff]
  startPositions := by
    rw [d.starts_eq]
    exact locates_positionsOf d.elements fun e => beq_iff_eq

/--
Whatever the order in which elements and flows are filed, and so for every document, an identifier, a source and
the start events are looked up as scans over the tables find them, and every position that is kept lies within its
table. The tables of a document are what a scan over its tree finds.
-/
theorem ofDocument_answersAsScan :
    (∀ parts : List Part,
      (ofParts parts).AnswersAsScan (parts.filterMap Part.element?) (parts.filterMap Part.flow?)) ∧
    ∀ document : Xml.Document, (ofDocument document).AnswersAsScan
      (document.descendants.filterMap fun node => (Part.ofNode? node).bind Part.element?)
      (document.descendants.filterMap fun node => (Part.ofNode? node).bind Part.flow?) := by
  have filed (parts : List Part) :
      (ofParts parts).AnswersAsScan (parts.filterMap Part.element?) (parts.filterMap Part.flow?) := by
    rw [← elements_ofParts, ← flows_ofParts]
    exact answersAsScan (ofParts parts)
  refine ⟨filed, fun document => ?_⟩
  have read := filed (Part.ofNodes document.nodes)
  rw [Part.ofNodes_eq_filterMap, List.filterMap_filterMap, List.filterMap_filterMap] at read
  rw [ofDocument, Part.ofNodes_eq_filterMap]
  exact read

end Diagram

end BpmnWorkflow
