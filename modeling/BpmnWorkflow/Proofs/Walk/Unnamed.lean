import BpmnWorkflow.Proofs.Diagram.Lookup
import BpmnWorkflow.Proofs.Walk.AddedEnds
import BpmnWorkflow.Proofs.Walk.Warnings

/-!
# Elements without an identifier

An element without an identifier and a flow without a target share the empty identifier, so that the one
may be taken for the target of the other. `unnamed_references` says exactly when that happens, and that
a compiled workflow names an empty step just in case a flow that it follows has no target.
-/

namespace BpmnWorkflow

namespace Diagram

section Unnamed

variable {d : Diagram} {id : String} {accept : ElementKind → Bool} {f : Flow} {e : Element}

theorem live_of_unnamed (blank : e.id = "") : d.live e = [] := by
  rw [live, liveFlows, blank, outgoing_empty, List.filterMap_nil]

theorem not_isBypass_of_unnamed (blank : e.id = "") : ¬ d.IsBypass e := by
  rintro ⟨_, single⟩
  rw [live_of_unnamed blank] at single
  cases single

theorem live_iff_of_blank (leaves : f ∈ d.outgoing id) (blank : f.target = "") :
    (∃ x, ⟨f, x⟩ ∈ d.liveFlows id accept) ↔ ∃ x, d.named "" accept = [x] := by
  refine exists_congr fun x => ?_
  rw [mem_liveFlows_iff, blank, resolve_eq_ok_iff]
  exact and_iff_right leaves

theorem dead_of_blank (leaves : f ∈ d.outgoing id) (blank : f.target = "") (several : ∀ x, d.named "" accept ≠ [x]) :
    d.lookupFailure "" accept ∈ d.deadFlows id accept :=
  mem_deadFlows leaves (by rw [blank]; exact resolve_eq_error several)

end Unnamed

end Diagram

namespace Entry

theorem head_liveFlows_of_resolve {d : Diagram} {entry : Entry} (found : (resolve d).1 = some entry) :
    ∃ f rest, d.liveFlows entry.start.id ElementKind.isTaskLike = f :: rest ∧ f.target = entry.first := by
  obtain ⟨start, _, _, offered⟩ := ofStart_of_choose found
  rw [fst_ofStart, Option.map_eq_some_iff] at offered
  obtain ⟨f, head, rfl⟩ := offered
  obtain ⟨rest, lives⟩ := List.head?_eq_some_iff.mp head
  exact ⟨f, rest, lives, rfl⟩

end Entry

namespace Walk

theorem syntheticEndId_ne_empty (id : String) : syntheticEndId id ≠ "" := by
  intro blank
  have lengths := congrArg String.length blank
  rw [syntheticEndId_eq, String.length_append] at lengths
  have positive : 0 < "endEvent-".length := by decide
  have none : "".length = 0 := rfl
  omega

namespace Finished

variable {d : Diagram} {first e : Element} {reached : List Element} {w : Walk}

/-- The empty step is that of an element without an identifier: no end that is added has this identifier. -/
theorem empty_mem_keys_iff (finished : Finished d first reached w) :
    "" ∈ w.workflow.steps.keys ↔ ∃ e ∈ reached, e.id = "" := by
  constructor
  · intro known
    rcases finished.traced.keys "" known with ⟨e, member, blank, _⟩ | ⟨t, _, _, ended⟩
    · exact ⟨e, member, blank⟩
    · exact (syntheticEndId_ne_empty t.id ended).elim
  · rintro ⟨e, member, blank⟩
    have unbypassed := finished.notMem_gateways (finished.meets member) (Diagram.not_isBypass_of_unnamed blank)
    obtain ⟨step, found, _⟩ := finished.traced.steps e member unbypassed
    exact blank ▸ mem_keys_of_step? found

theorem empty_mem_references_iff (finished : Finished d first reached w) :
    ("" ∈ w.workflow.steps.keys ∨ "" ∈ w.workflow.references) ↔ "" ∈ w.workflow.steps.keys :=
  or_iff_left_of_imp fun referenced => (finished.closing.references "" referenced).resolve_right List.not_mem_nil

theorem empty_mem_keys_iff_followed (finished : Finished d first reached w)
    (came : ∀ e ∈ reached, d.ComesTo first reached e) :
    "" ∈ w.workflow.steps.keys ↔ first.id = "" ∨ ∃ e ∈ reached, ∃ f ∈ d.followed e, f.flow.target = "" := by
  have settled : ∀ x, d.ComesTo first reached x → x.id = "" → "" ∈ w.workflow.steps.keys := by
    intro x come blank
    have unbypassed := finished.notMem_gateways (finished.meets_of_comesTo come) (Diagram.not_isBypass_of_unnamed blank)
    refine blank ▸ (isSettled_iff.mp ?_).resolve_right unbypassed
    rcases come with rfl | ⟨e, member, step⟩
    · exact finished.isSettled_first
    · exact finished.isSettled_of_leadsTo member step
  have target (a : Element) (f : LiveFlow) (followed : f ∈ d.followed a) : f.target.id = f.flow.target :=
    Diagram.id_target_of_live (Diagram.live_of_followed followed)
  constructor
  · intro known
    obtain ⟨e, member, blank⟩ := finished.empty_mem_keys_iff.mp known
    rcases came e member with rfl | ⟨a, before, step⟩
    · exact .inl blank
    · obtain ⟨f, followed, rfl⟩ := List.mem_map.mp step
      exact .inr ⟨a, before, f, followed, (target a f followed).symm.trans blank⟩
  · rintro (blank | ⟨a, member, f, followed, blank⟩)
    · exact settled first (.inl rfl) blank
    · exact settled f.target (.inr ⟨a, member, List.mem_map_of_mem followed⟩) ((target a f followed).trans blank)

end Finished

end Walk

namespace Diagram

/--
A flow without a target is live just in case exactly one of the accepted elements has no identifier, and
dead for want of a target otherwise. A compiled workflow names an empty step just in case the flow to its
entry or a flow that it follows has no target.
-/
theorem unnamed_references (d : Diagram) (options : CompileOptions) :
    (∀ id accept, ∀ f ∈ d.outgoing id, f.target = "" →
      ((∃ x, ⟨f, x⟩ ∈ d.liveFlows id accept) ↔ ∃ x, d.named "" accept = [x]) ∧
      ((∀ x, d.named "" accept ≠ [x]) → d.lookupFailure "" accept ∈ d.deadFlows id accept)) ∧
    ∀ w, (d.compile options).result = .ok w → ∃ entry diagnostics, Entry.resolve d = (some entry, diagnostics) ∧
      ("" ∈ w.steps.keys ∨ "" ∈ w.references ↔
        (∃ f rest, d.liveFlows entry.start.id ElementKind.isTaskLike = f :: rest ∧ f.flow.target = "") ∨
        ∃ e ∈ d.expanded options.name entry diagnostics, ∃ f ∈ d.followed e, f.flow.target = "") := by
  refine ⟨fun id accept f leaves blank => ⟨live_iff_of_blank leaves blank, dead_of_blank leaves blank⟩, ?_⟩
  intro w compiled
  obtain ⟨entry, diagnostics, resolved, rfl⟩ := walk_of_compile compiled
  have finished := finished_walk resolved options.name
  have came : ∀ e ∈ d.expanded options.name entry diagnostics,
      d.ComesTo entry.first (d.expanded options.name entry diagnostics) e := by
    intro e member
    exact (Walk.ending_run finished.unambiguous options.name diagnostics).came e (List.mem_append_left _ member)
  have found : (Entry.resolve d).1 = some entry := by rw [resolved]
  obtain ⟨f, rest, lives, target⟩ := Entry.head_liveFlows_of_resolve found
  refine ⟨entry, diagnostics, resolved, ?_⟩
  rw [finished.empty_mem_references_iff, finished.empty_mem_keys_iff_followed came]
  refine or_congr_left ?_
  have named : entry.first.id = f.flow.target := by
    rw [← target]
    exact id_target_of_live (lives ▸ List.mem_cons_self)
  rw [lives, named]
  constructor
  · exact fun blank => ⟨f, rest, rfl, blank⟩
  · rintro ⟨g, _, same, blank⟩
    obtain rfl := (List.cons.inj same).1
    exact blank

/-- The flow out of `A` has no target, and the task after it has no identifier. -/
def unnamedTask : Diagram := .ofParts [
  .element ⟨"S", none, .startEvent, none⟩, .element ⟨"A", none, .task, none⟩,
  .element ⟨"", some "Nameless", .userTask, none⟩,
  .flow ⟨none, none, "S", "A"⟩, .flow ⟨none, none, "A", ""⟩]

def unnamedTaskWorkflow : Workflow where
  name := "unnamed"
  entryPoint := "A"
  steps := OrderedMap.empty
    |>.insert "A" (.task "" "" .guideline ⟨"", "Continue", none⟩)
    |>.insert "endEvent-" (.terminal "End of workflow")
    |>.insert "" (.task "Nameless" "" .guideline ⟨"endEvent-", "End the workflow", none⟩)

theorem unnamedTask_referenced : (unnamedTask.compile (.named "unnamed")).result = .ok unnamedTaskWorkflow ∧
    ∃ entry diagnostics, Entry.resolve unnamedTask = (some entry, diagnostics) ∧
      ((∃ f rest, unnamedTask.liveFlows entry.start.id ElementKind.isTaskLike = f :: rest ∧ f.flow.target = "") ∨
        ∃ e ∈ unnamedTask.expanded "unnamed" entry diagnostics, ∃ f ∈ unnamedTask.followed e, f.flow.target = "") := by
  have compiled : (unnamedTask.compile (.named "unnamed")).result = .ok unnamedTaskWorkflow := by cbv
  obtain ⟨entry, diagnostics, resolved, iff⟩ := (unnamed_references unnamedTask (.named "unnamed")).2 _ compiled
  exact ⟨compiled, entry, diagnostics, resolved, iff.mp (.inl (by decide))⟩

end Diagram

end BpmnWorkflow
