import BpmnWorkflow.Proofs.Walk.Growth

/-!
# What a redirection changes

A redirection changes the references to one identifier and nothing else, and it tells how many they
were: `redirect_references_only`. A second redirection away from the same identifier finds none.
-/

namespace BpmnWorkflow

namespace Workflow

variable {w : Workflow} {source : String}

theorem redirect_of_notMem (absent : source ∉ w.references) (target : String) : w.redirect source target = w := by
  have kept : ∀ r ∈ w.references, redirectReference source target r = r := by
    intro r member
    unfold redirectReference
    rw [if_neg]
    rintro rfl
    exact absent member
  have entryPoint : redirectReference source target w.entryPoint = w.entryPoint :=
    kept w.entryPoint (mem_references_iff.mpr (.inl rfl))
  have steps : w.steps.mapValues (Step.rename (redirectReference source target)) = w.steps := by
    apply OrderedMap.ext_entries
    refine (List.map_congr_left fun e member => ?_).trans (List.map_id w.steps.entries)
    have found : w.step? e.1 = some e.2 := OrderedMap.mem_entries_iff.mp member
    have same : e.2.rename (redirectReference source target) = e.2 := by
      apply Step.rename_of_forall_eq
      intro t leads
      exact kept t.stepName (mem_references_iff.mpr (.inr ⟨e.1, e.2, found, t, leads, rfl⟩))
    rw [same]
    rfl
  show { w with
    entryPoint := redirectReference source target w.entryPoint
    steps := w.steps.mapValues (Step.rename (redirectReference source target)) } = w
  rw [entryPoint, steps]

theorem notMem_references_redirect {target : String} (moved : source ≠ target) (w : Workflow) :
    source ∉ (w.redirect source target).references := by
  rw [references_redirect, List.mem_map]
  rintro ⟨r, _, same⟩
  unfold redirectReference at same
  split at same
  · exact moved same.symm
  · rename_i other
    exact other same

end Workflow

namespace Walk

/--
A redirection maps every reference to `source`, position by position, to `target`, and returns and reports their
number; keys, order, kinds, texts, buttons and answers of the steps stay, and so does all else of the walk. With
another `target` no reference to `source` is left, and a second redirection changes nothing.
-/
theorem redirect_references_only (w : Walk) (source target : String) :
    let w' := w.redirect source target
    w'.workflow.references = w.workflow.references.map (fun r => if r = source then target else r) ∧
    w'.workflow.steps.entries = w.workflow.steps.entries.map (fun e => (e.1, e.2.mapTransitions fun t =>
      { t with stepName := if t.stepName = source then target else t.stepName })) ∧
    w'.workflow.name = w.workflow.name ∧ w'.bypassed = w.bypassed ∧
    (w.workflow.rewrite source target).run 0 = (w'.workflow, w.workflow.references.count source) ∧
    w'.diagnostics = w.diagnostics.note (.redirected source target (w.workflow.references.count source)) ∧
    (source ≠ target → source ∉ w'.workflow.references ∧ ∀ other,
      (w'.workflow.rewrite source other).run 0 = (w'.workflow, 0) ∧
      w'.redirect source other = w'.note (.redirected source other 0)) := by
  intro w'
  have state : w' = { w with workflow := w.workflow.redirect source target }.note
      (.redirected source target (w.workflow.referenceCount source)) := redirect_eq w source target
  have workflow : w'.workflow = w.workflow.redirect source target := workflow_redirect w source target
  have returned : (w.workflow.rewrite source target).run 0 =
      (w'.workflow, w.workflow.references.count source) := by
    rw [workflow, Workflow.counts_rewrite source target w.workflow 0, Nat.zero_add]
    rfl
  refine ⟨?_, ?_, ?_, ?_, returned, ?_, ?_⟩
  · rw [workflow]
    exact Workflow.references_redirect w.workflow source target
  · rw [workflow]
    rfl
  · rw [workflow]
    rfl
  · exact bypassed_redirect w source target
  · rw [state]
    rfl
  · intro moved
    have gone : source ∉ w'.workflow.references := by
      rw [workflow]
      exact Workflow.notMem_references_redirect moved w.workflow
    have none : w'.workflow.referenceCount source = 0 := List.count_eq_zero_of_not_mem gone
    refine ⟨gone, fun other => ⟨?_, ?_⟩⟩
    · rw [Workflow.counts_rewrite source other w'.workflow 0, Workflow.redirect_of_notMem gone, none]
    · rw [redirect_eq, Workflow.redirect_of_notMem gone, none]

/-- A gateway `G` with three predecessors, one of them a condition, at which the workflow starts as well. -/
def fanIn : Walk where
  workflow := {
    name := "redirect"
    entryPoint := "G"
    steps := OrderedMap.empty
      |>.insert "A" (.task "" "" .guideline ⟨"G", "Continue", none⟩)
      |>.insert "B" (.task "" "" .guideline ⟨"G", "Continue", none⟩)
      |>.insert "C" (.condition "" "" [⟨"G", "Yes", none⟩, ⟨"X", "No", none⟩]) }
  bypassed := []
  ends := wellFounded_replaces_nil
  diagnostics := {}

theorem fanIn_redirected : "G" ≠ "T" ∧
    (fanIn.redirect "G" "T").workflow.references = ["T", "T", "T", "T", "X"] ∧
    (fanIn.redirect "G" "T").notices = [.redirected "G" "T" 4] ∧
    (fanIn.redirect "G" "T").redirect "G" "Y" = (fanIn.redirect "G" "T").note (.redirected "G" "Y" 0) := by
  obtain ⟨references, _, _, _, _, diagnostics, again⟩ := redirect_references_only fanIn "G" "T"
  have moved : "G" ≠ "T" := by decide
  have before : fanIn.workflow.references = ["G", "G", "G", "G", "X"] := by decide
  rw [before] at references diagnostics
  have notices : (fanIn.redirect "G" "T").notices = [.redirected "G" "T" 4] :=
    congrArg Diagnostics.delivered diagnostics
  exact ⟨moved, references, notices, ((again moved).2 "Y").2⟩

end Walk

end BpmnWorkflow
