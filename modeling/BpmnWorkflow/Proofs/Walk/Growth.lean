import BpmnWorkflow.Proofs.Walk.Effect
import BpmnWorkflow.Proofs.Walk.Termination

/-!
# Walks only grow

A visit adds steps after those that there are, and gateways after those that are bypassed. What was
there stays, but for references to a gateway that had no step when it was bypassed: `Outcome.extends` for
one visit, `extends_turns` for any number of them.
-/

namespace BpmnWorkflow

namespace Step

def rename (f : String → String) (s : Step) : Step := s.mapTransitions fun t => { t with stepName := f t.stepName }

theorem rename_rename (f g : String → String) (s : Step) : (s.rename f).rename g = s.rename fun r => g (f r) :=
  mapTransitions_mapTransitions _ _ s

theorem rename_of_forall_eq {f : String → String} {s : Step} (same : ∀ t ∈ s.transitions, f t.stepName = t.stepName) :
    s.rename f = s := by
  refine (mapTransitions_congr fun t leads => ?_).trans (mapTransitions_id s)
  rw [same t leads]

end Step

namespace Workflow

/-- The steps of `w` come first in `w'`, and all that `w` refers to is renamed. -/
structure ExtendsBy (rename : String → String) (w w' : Workflow) : Prop where
  keys : w.steps.keys <+: w'.steps.keys
  entryPoint : w'.entryPoint = rename w.entryPoint
  steps : ∀ id step, w.step? id = some step → w'.step? id = some (step.rename rename)

section ExtendsBy

variable {f g : String → String} {u v w : Workflow}

theorem ExtendsBy.refl (w : Workflow) : ExtendsBy (fun r => r) w w where
  keys := List.prefix_refl _
  entryPoint := rfl
  steps _ _ found := found.trans (congrArg some (Step.rename_of_forall_eq fun _ _ => rfl).symm)

theorem ExtendsBy.trans (first : ExtendsBy f u v) (second : ExtendsBy g v w) : ExtendsBy (fun r => g (f r)) u w where
  keys := first.keys.trans second.keys
  entryPoint := by rw [second.entryPoint, first.entryPoint]
  steps id step found := by rw [second.steps id _ (first.steps id step found), Step.rename_rename]

theorem extendsBy_redirect (w : Workflow) (source target : String) :
    ExtendsBy (redirectReference source target) w (w.redirect source target) where
  keys := (keys_redirect w source target).symm ▸ List.prefix_refl _
  entryPoint := rfl
  steps id step found := by
    rw [step?_redirect]
    exact congrArg (Option.map _) found

theorem extendsBy_insertStep {id : String} (fresh : id ∉ w.steps.keys) (step : Step) :
    ExtendsBy (fun r => r) w (w.insertStep id step) where
  keys := by
    rw [keys_insertStep_of_fresh fresh]
    exact List.prefix_append _ _
  entryPoint := rfl
  steps key old found := by
    have other : key ≠ id := by
      rintro rfl
      exact fresh (OrderedMap.mem_keys_iff.mpr ⟨old, found⟩)
    rw [step?_insertStep, if_neg other]
    exact (ExtendsBy.refl w).steps key old found

theorem extendsBy_addStep (w : Workflow) (id : String) (step : Step) : ExtendsBy (fun r => r) w (w.addStep id step) := by
  by_cases known : id ∈ w.steps.keys
  · rw [addStep, if_pos (OrderedMap.contains_iff.mpr known)]
    exact .refl w
  · rw [addStep_of_fresh known]
    exact extendsBy_insertStep known step

end ExtendsBy

end Workflow

namespace Walk

/-- What is bypassed stays so, and only references to what was bypassed without a step are renamed. -/
structure Extends (w w' : Walk) : Prop where
  bypassed : w.bypassed <+: w'.bypassed
  workflow : ∃ rename : String → String,
    (∀ id, rename id ≠ id → id ∉ w.workflow.steps.keys ∧ id ∈ w'.gateways) ∧
      w.workflow.ExtendsBy rename w'.workflow

section Extends

variable {d : Diagram} {u v w w' : Walk} {e : Element} {new next : List Element} {id : String} {step : Step}

theorem Extends.mem_gateways (extends_ : Extends w w') (known : id ∈ w.gateways) : id ∈ w'.gateways :=
  (extends_.bypassed.map Prod.fst).subset known

theorem Extends.replacement? (extends_ : Extends w w') {replacement : String}
    (found : w.replacement? id = some replacement) : w'.replacement? id = some replacement := by
  obtain ⟨newer, split⟩ := extends_.bypassed
  have found : w.bypassed.lookup id = some replacement := found
  rw [Walk.replacement?, ← split, List.lookup_append, found, Option.some_or]

theorem Extends.of_workflow (bypassed : w'.bypassed = w.bypassed)
    (workflow : w.workflow.ExtendsBy (fun r => r) w'.workflow) : Extends w w' where
  bypassed := bypassed ▸ List.prefix_refl _
  workflow := ⟨_, fun _ moved => (moved rfl).elim, workflow⟩

theorem Extends.of_redirect {source target : String} (fresh : source ∉ w.workflow.steps.keys)
    (known : source ∈ w'.gateways) (workflow : w'.workflow = w.workflow.redirect source target)
    (bypassed : w.bypassed <+: w'.bypassed) : Extends w w' where
  bypassed := bypassed
  workflow := by
    refine ⟨_, fun r moved => ?_, workflow ▸ w.workflow.extendsBy_redirect source target⟩
    by_cases own : r = source
    · exact own ▸ ⟨fresh, known⟩
    · exact (moved (if_neg own)).elim

theorem Extends.refl (w : Walk) : Extends w w := .of_workflow rfl (.refl _)

theorem Extends.trans (first : Extends u v) (second : Extends v w) : Extends u w := by
  obtain ⟨f, f_moves, f_extends⟩ := first.workflow
  obtain ⟨g, g_moves, g_extends⟩ := second.workflow
  refine ⟨first.bypassed.trans second.bypassed, _, fun id moved => ?_, f_extends.trans g_extends⟩
  by_cases stays : f id = id
  · rw [stays] at moved
    obtain ⟨fresh, known⟩ := g_moves id moved
    exact ⟨fun old => fresh (f_extends.keys.subset old), known⟩
  · obtain ⟨fresh, known⟩ := f_moves id stays
    exact ⟨fresh, second.mem_gateways known⟩

theorem Outcome.extends (outcome : Outcome d w e new w' next) : Extends w w' := by
  cases outcome with
  | registered => exact .refl w
  | again fresh known workflow bypassed =>
    have known : e.id ∈ w'.gateways := by rwa [gateways_of_bypassed_eq bypassed]
    exact .of_redirect fresh known workflow (bypassed ▸ List.prefix_refl _)
  | bypassed fresh _ _ workflow bypassed =>
    have known : e.id ∈ w'.gateways := (mem_gateways_snoc bypassed).mpr (.inr rfl)
    exact .of_redirect (isSettled_eq_false_iff.mp fresh).1 known workflow (bypassed ▸ List.prefix_append _ _)
  | ring fresh _ _ workflow bypassed | built fresh _ _ workflow bypassed =>
    refine .of_workflow bypassed ?_
    rw [workflow]
    exact Workflow.extendsBy_insertStep (isSettled_eq_false_iff.mp fresh).1 _
  | dangling fresh _ workflow bypassed =>
    refine .of_workflow bypassed ?_
    rw [workflow]
    exact (Workflow.extendsBy_addStep _ _ _).trans (Workflow.extendsBy_insertStep (notMem_keys_addStep_end fresh _) _)

theorem Extends.step?_final (extends_ : Extends w w') (found : w.workflow.step? id = some step)
    (registered : ∀ t ∈ step.transitions, t.stepName ∈ w.workflow.steps.keys) : w'.workflow.step? id = some step := by
  obtain ⟨rename, moves, workflow⟩ := extends_.workflow
  rw [workflow.steps id step found, Step.rename_of_forall_eq]
  intro t leads
  by_contra moved
  exact (moves _ moved).1 (registered t leads)

theorem Course.extends {w₀ : Walk} {p₀ expanded pending : List Element} (initial : Ordered w₀.bypassed)
    (course : Course d w₀ p₀ expanded w pending) : Extends w₀ w :=
  course.preserves (P := fun _ w _ => Extends w₀ w) initial (.refl w₀) fun _ outcome before => before.trans outcome.extends

end Extends

/--
Between any two states of a walk, steps are only added, after those that there are, and bypassed gateways keep
their replacements. The earlier steps stay but for the names in their transitions, and these, like the entry point,
are renamed only where they named a gateway without a step that is bypassed by then. What names a step is final.
-/
theorem extends_turns (d : Diagram) (name : String) (entry : Element) (diagnostics : Diagnostics) (m n : Nat) :
    let s := ((turn d)^[m] (start name entry diagnostics, [entry])).1
    let t := ((turn d)^[m + n] (start name entry diagnostics, [entry])).1
    s.workflow.steps.keys <+: t.workflow.steps.keys ∧
    (∀ id replacement, s.replacement? id = some replacement → t.replacement? id = some replacement) ∧
    (∃ rename : String → String,
      (∀ id, rename id ≠ id → id ∉ s.workflow.steps.keys ∧ id ∈ t.gateways) ∧
      t.workflow.entryPoint = rename s.workflow.entryPoint ∧
      ∀ id step, s.workflow.step? id = some step → t.workflow.step? id =
        some (step.mapTransitions fun way => { way with stepName := rename way.stepName })) ∧
    ∀ id step, s.workflow.step? id = some step → (∀ way ∈ step.transitions, way.stepName ∈ s.workflow.steps.keys) →
      t.workflow.step? id = some step := by
  intro s t
  obtain ⟨_, before⟩ := exists_course_of_turns d (start name entry diagnostics) [entry] m
  obtain ⟨_, between⟩ := exists_course_of_turns d s ((turn d)^[m] (start name entry diagnostics, [entry])).2 n
  have later : (turn d)^[n] (s, ((turn d)^[m] (start name entry diagnostics, [entry])).2) =
      (turn d)^[m + n] (start name entry diagnostics, [entry]) := by
    rw [Nat.add_comm, Function.iterate_add_apply]
  rw [later] at between
  have grown : Extends s t := between.extends (before.ordered ordered_nil)
  obtain ⟨rename, moves, workflow⟩ := grown.workflow
  refine ⟨workflow.keys, fun id replacement found => grown.replacement? found, ?_, ?_⟩
  · exact ⟨rename, moves, workflow.entryPoint, workflow.steps⟩
  · exact fun id step found registered => grown.step?_final found registered

end Walk

end BpmnWorkflow
