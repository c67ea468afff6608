import BpmnWorkflow.Proofs.Diagram.FlowGraph

/-!
# Lookups as scans

What an identifier names and which flows leave it, read off the tables of a diagram; what a lookup
finds, why it fails and which flows are live, in these terms.
-/

namespace BpmnWorkflow

namespace Diagram

def flowsFrom (d : Diagram) (id : String) : List Flow := d.flows.filter (·.source == id)

/-- The elements of an accepted kind that have this identifier, in document order. -/
def named (d : Diagram) (id : String) (accept : ElementKind → Bool) : List Element :=
  d.elements.filter fun e => e.id == id && accept e.kind

def lookupFailure (d : Diagram) (id : String) (accept : ElementKind → Bool) : LookupError :=
  if d.named id accept = [] then .taskNotFound id else .duplicateTask id (d.named id accept).length

variable {d : Diagram} {id : String} {accept : ElementKind → Bool} {f : Flow} {x : Element}

theorem filter_lookup (d : Diagram) (id : String) (accept : ElementKind → Bool) :
    (d.elementTable.lookup id).filter (accept ·.kind) = d.named id accept := by
  rw [lookup_elementTable, List.filter_filter, named]
  exact List.filter_congr fun e _ => Bool.and_comm _ _

theorem resolve_eq_ok_iff : d.resolve id accept = .ok x ↔ d.named id accept = [x] := by
  rw [resolve_eq_ok, filter_lookup]

theorem resolve_eq_error (several : ∀ x, d.named id accept ≠ [x]) :
    d.resolve id accept = .error (d.lookupFailure id accept) := by
  rw [resolve, filter_lookup, lookupFailure]
  generalize d.named id accept = found at several ⊢
  rcases found with _ | ⟨x, _ | ⟨y, rest⟩⟩
  · rfl
  · exact (several x rfl).elim
  · rfl

/-! ### Flows -/

theorem outgoing_of_ne_empty (d : Diagram) (given : id ≠ "") : d.outgoing id = d.flowsFrom id := by
  rw [outgoing_eq_filter, flowsFrom]
  refine List.filter_congr fun f _ => ?_
  rw [Flow.origin?]
  split
  · rename_i blank
    have empty : f.source = "" := String.isEmpty_iff.mp blank
    rw [empty]
    exact (beq_eq_false_iff_ne.mpr given.symm).symm
  · exact Option.some_beq_some

theorem outgoing_empty (d : Diagram) : d.outgoing "" = [] := by
  rw [outgoing_eq_filter, List.filter_eq_nil_iff]
  intro f _
  rw [beq_iff_eq, Flow.origin?]
  split
  · exact (Option.some_ne_none "").symm
  · rename_i given
    intro blank
    exact given (String.isEmpty_iff.mpr (Option.some.inj blank))

theorem mem_liveFlows_iff : (⟨f, x⟩ : LiveFlow) ∈ d.liveFlows id accept ↔
    f ∈ d.outgoing id ∧ d.resolve f.target accept = .ok x := by
  rw [liveFlows, List.mem_filterMap]
  constructor
  · rintro ⟨g, leaves, found⟩
    split at found
    · rename_i target resolved
      cases found
      exact ⟨leaves, resolved⟩
    · cases found
  · rintro ⟨leaves, resolved⟩
    exact ⟨f, leaves, by rw [resolved]⟩

theorem mem_deadFlows {failure : LookupError} (leaves : f ∈ d.outgoing id)
    (failed : d.resolve f.target accept = .error failure) : failure ∈ d.deadFlows id accept := by
  rw [deadFlows, List.mem_filterMap]
  exact ⟨f, leaves, by rw [failed]⟩

theorem id_target_of_live {f : LiveFlow} (live : f ∈ d.liveFlows id accept) : f.target.id = f.flow.target :=
  (id_of_resolve (mem_liveFlows_iff.mp live).2).1

end Diagram

end BpmnWorkflow
