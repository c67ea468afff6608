import Mathlib.Logic.Relation
import BpmnWorkflow.Proofs.Workflow.References

/-!
# Paths through a workflow

Where the transitions of a workflow lead, step after step. A redirection away from an identifier
without a step redirects the paths, and a new step only adds to them.
-/

namespace BpmnWorkflow

open Relation (ReflTransGen)

namespace Workflow

def Follows (w : Workflow) (a b : String) : Prop :=
  ∃ step, w.step? a = some step ∧ ∃ t ∈ step.transitions, t.stepName = b

variable {w : Workflow} {a b id source target : String} {step : Step}

theorem Follows.mem_keys (follows : w.Follows a b) : a ∈ w.steps.keys := by
  obtain ⟨step, found, _⟩ := follows
  exact OrderedMap.mem_keys_iff.mpr ⟨step, found⟩

theorem Follows.redirect (follows : w.Follows a b) (source target : String) :
    (w.redirect source target).Follows a (redirectReference source target b) := by
  obtain ⟨step, found, t, leads, rfl⟩ := follows
  refine ⟨_, by rw [step?_redirect, found]; rfl, ?_⟩
  rw [Step.transitions_mapTransitions]
  exact ⟨_, List.mem_map_of_mem leads, rfl⟩

/-- A path does not lead through an identifier without a step, so only its ends are redirected. -/
theorem path_redirect (fresh : source ∉ w.steps.keys) (path : ReflTransGen w.Follows a b) :
    ReflTransGen (w.redirect source target).Follows (redirectReference source target a)
      (redirectReference source target b) := by
  induction path with
  | refl => exact .refl
  | @tail y z _ follows ih =>
    have away : y ≠ source := fun same => fresh (same ▸ follows.mem_keys)
    have steady : redirectReference source target y = y := if_neg away
    rw [steady] at ih
    exact ih.tail (follows.redirect source target)

theorem Follows.insertStep (fresh : id ∉ w.steps.keys) (follows : w.Follows a b) (step : Step) :
    (w.insertStep id step).Follows a b := by
  have known : a ≠ id := fun same => fresh (same ▸ follows.mem_keys)
  obtain ⟨own, found, leads⟩ := follows
  exact ⟨own, by rw [step?_insertStep, if_neg known, found], leads⟩

theorem Follows.addStep (follows : w.Follows a b) (id : String) (step : Step) : (w.addStep id step).Follows a b := by
  by_cases known : id ∈ w.steps.keys
  · rwa [Workflow.addStep, if_pos (OrderedMap.contains_iff.mpr known)]
  · rw [addStep_of_fresh known]
    exact follows.insertStep known step

theorem follows_insertStep (w : Workflow) (id : String) {t : Transition} (leads : t ∈ step.transitions) :
    (w.insertStep id step).Follows id t.stepName :=
  ⟨step, by rw [step?_insertStep, if_pos rfl], t, leads, rfl⟩

end Workflow

end BpmnWorkflow
