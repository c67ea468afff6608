import BpmnWorkflow.Counting
import BpmnWorkflow.Workflow.Validation

/-!
# Redirection

The references of a workflow are its entry point and the targets of its transitions. `rewrite` goes
through them one by one, makes every reference to one step a reference to another and counts those
that it changes; `redirect` says what becomes of the workflow, and `counts_rewrite` that it does.
-/

namespace BpmnWorkflow

namespace Workflow

/-- The entry point, then every transition target in step order. -/
def references (w : Workflow) : List String := w.entryPoint :: w.stepTargets

def redirectReference (source target id : String) : String := if id = source then target else id

def redirect (w : Workflow) (source target : String) : Workflow :=
  { w with
    entryPoint := redirectReference source target w.entryPoint
    steps := w.steps.mapValues (·.mapTransitions fun t =>
      { t with stepName := redirectReference source target t.stepName }) }

def referenceCount (w : Workflow) (source : String) : Nat := w.references.count source

@[simp] theorem keys_redirect (w : Workflow) (source target : String) :
    (w.redirect source target).steps.keys = w.steps.keys :=
  OrderedMap.keys_mapValues _ _

/-! ### One reference after the other -/

/-- Comes by the reference `id`: if that is `source`, it is replaced and counted. -/
def rewriteReference (source target id : String) : StateM Nat String := do
  if id = source then
    modify (· + 1)
    return target
  else
    return id

def rewriteTransition (source target : String) (t : Transition) : StateM Nat Transition :=
  (fun id => { t with stepName := id }) <$> rewriteReference source target t.stepName

/-- Comes by the transitions of every step, then by the entry point. -/
def rewrite (w : Workflow) (source target : String) : StateM Nat Workflow := do
  let steps ← w.steps.mapValuesM (·.mapTransitionsM (rewriteTransition source target))
  (fun id => { w with entryPoint := id, steps := steps }) <$> rewriteReference source target w.entryPoint

section Rewrite

variable (source target : String)

theorem counts_rewriteReference (id : String) :
    Counts (rewriteReference source target id) (redirectReference source target id) ([id].count source) := by
  intro n
  unfold rewriteReference redirectReference
  by_cases met : id = source
  · rw [if_pos met, if_pos met, met, List.count_singleton_self]
    rfl
  · rw [if_neg met, if_neg met, List.count_eq_zero_of_not_mem (by simpa using Ne.symm met)]
    rfl

theorem counts_rewriteTransition (t : Transition) :
    Counts (rewriteTransition source target t) { t with stepName := redirectReference source target t.stepName }
      ([t.stepName].count source) :=
  (counts_rewriteReference source target t.stepName).map _

theorem counts_rewriteStep (s : Step) :
    Counts (s.mapTransitionsM (rewriteTransition source target))
      (s.mapTransitions fun t => { t with stepName := redirectReference source target t.stepName })
      ((s.transitions.map (·.stepName)).count source) := by
  cases s with
  | task title prompt taskType outgoing => exact (counts_rewriteTransition source target outgoing).map _
  | condition title prompt outgoing =>
    rw [List.map_eq_flatMap]
    exact (Counts.mapM (counts_rewriteTransition source target) outgoing).map _
  | terminal title => exact .pure _

theorem counts_rewrite (w : Workflow) :
    Counts (w.rewrite source target) (w.redirect source target) (w.referenceCount source) := by
  have steps := Counts.mapValuesM (counts_rewriteStep source target) w.steps
  have entryPoint := counts_rewriteReference source target w.entryPoint
  have total : w.referenceCount source = w.stepTargets.count source + [w.entryPoint].count source := by
    rw [referenceCount, references, ← List.singleton_append, List.count_append, Nat.add_comm]
  rw [total]
  exact steps.bind (entryPoint.map _)

end Rewrite

end Workflow

end BpmnWorkflow
