import BpmnWorkflow.Workflow.Redirection

/-!
# References of a workflow

How the references and the steps of a workflow change when a step is added or references are
redirected. `isClosed_iff` says that a workflow is closed when each of its references names a step.
-/

namespace BpmnWorkflow

namespace Workflow

variable {w : Workflow} {id source target r : String} {step : Step}

theorem mem_stepTargets_iff :
    r ∈ w.stepTargets ↔ ∃ id s, w.step? id = some s ∧ ∃ t ∈ s.transitions, t.stepName = r := by
  simp only [stepTargets, OrderedMap.values, List.mem_flatMap, List.mem_map]
  constructor
  · rintro ⟨s, ⟨⟨id, _⟩, member, rfl⟩, leads⟩
    exact ⟨id, _, OrderedMap.mem_entries_iff.mp member, leads⟩
  · rintro ⟨id, s, found, leads⟩
    exact ⟨s, ⟨(id, s), OrderedMap.mem_entries_iff.mpr found, rfl⟩, leads⟩

theorem mem_references_iff :
    r ∈ w.references ↔ r = w.entryPoint ∨ ∃ id s, w.step? id = some s ∧ ∃ t ∈ s.transitions, t.stepName = r := by
  rw [references, List.mem_cons, mem_stepTargets_iff]

theorem danglingTransitions_eq_nil_iff : w.danglingTransitions = [] ↔ ∀ r ∈ w.stepTargets, r ∈ w.steps.keys := by
  simp only [danglingTransitions, List.flatMap_eq_nil_iff, List.map_eq_nil_iff, List.filter_eq_nil_iff,
    Bool.not_eq_true', Bool.not_eq_false, OrderedMap.contains_iff, mem_stepTargets_iff]
  constructor
  · rintro sound r ⟨id, s, found, t, member, rfl⟩
    exact sound (id, s) (OrderedMap.mem_entries_iff.mpr found) t member
  · rintro sound ⟨id, s⟩ member t leads
    exact sound _ ⟨id, s, OrderedMap.mem_entries_iff.mp member, t, leads, rfl⟩

theorem isClosed_iff : w.isClosed = true ↔ ∀ r ∈ w.references, r ∈ w.steps.keys := by
  rw [isClosed, Bool.and_eq_true, OrderedMap.contains_iff, List.isEmpty_iff, danglingTransitions_eq_nil_iff,
    references, List.forall_mem_cons]

/-! ### Redirection -/

theorem stepTargets_redirect (w : Workflow) (source target : String) :
    (w.redirect source target).stepTargets = w.stepTargets.map (redirectReference source target) := by
  simp [stepTargets, redirect, OrderedMap.values, OrderedMap.mapValues, List.flatMap_map, List.map_flatMap,
    Function.comp_def]

theorem references_redirect (w : Workflow) (source target : String) :
    (w.redirect source target).references = w.references.map (redirectReference source target) := by
  rw [references, stepTargets_redirect, references, List.map_cons]
  rfl

theorem step?_redirect (w : Workflow) (source target id : String) :
    (w.redirect source target).step? id = (w.step? id).map (·.mapTransitions fun t =>
      { t with stepName := redirectReference source target t.stepName }) :=
  OrderedMap.find?_mapValues _ _ _

/-! ### New steps -/

theorem mem_keys_insertStep {k : String} : k ∈ (w.insertStep id step).steps.keys ↔ k ∈ w.steps.keys ∨ k = id :=
  OrderedMap.mem_keys_insert

theorem mem_keys_insertStep_self (w : Workflow) (id : String) (step : Step) : id ∈ (w.insertStep id step).steps.keys :=
  mem_keys_insertStep.mpr (.inr rfl)

theorem keys_insertStep_of_fresh (fresh : id ∉ w.steps.keys) (step : Step) :
    (w.insertStep id step).steps.keys = w.steps.keys ++ [id] :=
  (OrderedMap.keys_insert _ _ _).trans (if_neg fresh)

theorem step?_insertStep (w : Workflow) (id : String) (step : Step) (k : String) :
    (w.insertStep id step).step? k = if k = id then some step else w.step? k :=
  OrderedMap.find?_insert _ _ _ _

theorem mem_references_insertStep (fresh : id ∉ w.steps.keys) :
    r ∈ (w.insertStep id step).references ↔
      r ∈ w.references ∨ ∃ t ∈ step.transitions, t.stepName = r := by
  simp [references, stepTargets, insertStep, OrderedMap.values, OrderedMap.entries_insert_of_fresh step fresh,
    or_assoc]

def addStep (w : Workflow) (id : String) (step : Step) : Workflow :=
  if w.steps.contains id then w else w.insertStep id step

theorem addStep_of_fresh (fresh : id ∉ w.steps.keys) (step : Step) : w.addStep id step = w.insertStep id step := by
  rw [addStep, if_neg]
  rwa [OrderedMap.contains_iff]

theorem mem_keys_addStep {k : String} : k ∈ (w.addStep id step).steps.keys ↔ k ∈ w.steps.keys ∨ k = id := by
  by_cases known : id ∈ w.steps.keys
  · rw [addStep, if_pos (OrderedMap.contains_iff.mpr known)]
    exact ⟨.inl, fun h => h.elim (fun h => h) (fun same => same ▸ known)⟩
  · rw [addStep_of_fresh known, mem_keys_insertStep]

theorem step?_addStep (w : Workflow) (id : String) (step : Step) (k : String) :
    (w.addStep id step).step? k =
      if k = id ∧ id ∉ w.steps.keys then some step else w.step? k := by
  by_cases known : id ∈ w.steps.keys
  · simp [addStep, OrderedMap.contains_iff.mpr known, known]
  · rw [addStep_of_fresh known, step?_insertStep]
    simp [known]

theorem mem_references_addStep_terminal {title : String} :
    r ∈ (w.addStep id (.terminal title)).references ↔ r ∈ w.references := by
  by_cases known : id ∈ w.steps.keys
  · rw [addStep, if_pos (OrderedMap.contains_iff.mpr known)]
  · rw [addStep_of_fresh known, mem_references_insertStep known]
    simp [Step.transitions]

theorem entryPoint_addStep (w : Workflow) (id : String) (step : Step) : (w.addStep id step).entryPoint = w.entryPoint := by
  unfold addStep
  split <;> rfl

end Workflow

end BpmnWorkflow
