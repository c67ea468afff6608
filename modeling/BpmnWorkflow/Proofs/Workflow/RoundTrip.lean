import BpmnWorkflow.Proofs.Json.Printer
import BpmnWorkflow.Proofs.Workflow.Forms

/-!
# Workflows are read back

What is written of a workflow as JSON, without space or one item per line, is one of its forms and read
as the same workflow: `Workflow.ofJson_toJson`.
-/

namespace BpmnWorkflow

open Json (Draft)

variable {fits : Json.Token → Prop} {room : Nat}

theorem Transition.isForm_outline (t : Transition) : t.IsForm fits room t.outline.draft := by
  obtain ⟨stepName, buttonText, answer⟩ := t
  cases answer with
  | none => exact ⟨_, .absent, IsRecord.inOrder _⟩
  | some answer => exact ⟨_, .given answer, IsRecord.inOrder _⟩

theorem Step.isForm_outline (s : Step) : s.IsForm fits room s.outline.draft := by
  cases s with
  | task title prompt taskType outgoing => exact ⟨_, .task outgoing.isForm_outline, IsRecord.inOrder _⟩
  | condition title prompt outgoing =>
    have forms : List.Forall₂ (Transition.IsForm fits (room - 2)) outgoing
        (Outline.itemDrafts (outgoing.map Transition.outline)) := by
      rw [Outline.itemDrafts_eq_map, List.map_map, List.forall₂_map_right_iff]
      exact List.forall₂_same.mpr fun t _ => t.isForm_outline
    exact ⟨_, .condition forms, IsRecord.inOrder _⟩
  | terminal title => exact ⟨_, .terminal title, IsRecord.inOrder _⟩

namespace Workflow

theorem isForm_outline (w : Workflow) : w.IsForm fits w.outline.draft := by
  have forms : List.Forall₂ (fun e m => m.1 = some e.1 ∧ e.2.IsForm fits (depthLimit - 2) m.2) w.steps.entries
      (Outline.rowDrafts (w.steps.mapValues Step.outline).entries) := by
    rw [Outline.rowDrafts_eq_map, OrderedMap.mapValues, List.map_map, List.forall₂_map_right_iff]
    exact List.forall₂_same.mpr fun e _ => ⟨rfl, e.2.isForm_outline⟩
  exact ⟨_, .given forms, IsRecord.inOrder _⟩

theorem ofDraft_outline (w : Workflow) : ofDraft w.outline.draft = .ok w := ofDraft_of_isForm w.isForm_outline

end Workflow

theorem Reading.ofText_outline {α : Type} {read : Draft → Reading α} {o : Outline} {a : α} {text : String}
    (reads : read o.draft = .ok a) (written : Draft.ofText text = (o.draft, [])) :
    Reading.ofText read text = .ok a := by
  rw [Reading.ofText, written]
  simp only [reads]
  rfl

/-- Both texts of a workflow are read, and as that workflow: with its steps in their order. -/
theorem Workflow.ofJson_toJson (w : Workflow) :
    ofJson w.outline.toCompactJson = .ok w ∧ ofJson w.outline.toPrettyJson = .ok w :=
  ⟨Reading.ofText_outline w.ofDraft_outline w.outline.ofText_compact,
    Reading.ofText_outline w.ofDraft_outline w.outline.ofText_pretty⟩

end BpmnWorkflow
