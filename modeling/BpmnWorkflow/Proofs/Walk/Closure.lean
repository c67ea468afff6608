import BpmnWorkflow.Compilation.Basic
import BpmnWorkflow.Proofs.Walk.Course

/-!
# Compiled workflows are closed

While a walk is on its way, references name elements that are still pending and gateways that are
bypassed already. `Closing` is what holds all the same; with nothing pending it says that every
reference names a step. `compile_closed` draws the conclusions for compilation.
-/

namespace BpmnWorkflow

namespace Walk

/-- A step has this identifier, or something pending does. -/
def Covers (w : Walk) (pending : List Element) (id : String) : Prop :=
  id ∈ w.workflow.steps.keys ∨ id ∈ pending.map Element.id

/-- Every reference, and whatever stands in for a bypassed gateway, is a step or will be visited. -/
structure Closing (w : Walk) (pending : List Element) : Prop where
  references : ∀ r ∈ w.workflow.references, w.Covers pending r
  standIns : ∀ g ∈ w.gateways, w.Covers pending (w.standIn g)

section Step

variable {d : Diagram} {w w' : Walk} {e : Element} {pending new next : List Element} {id : String}

theorem Covers.onward (covered : w.Covers (e :: pending) id) (outcome : Outcome d w e new w' next)
    (own : id = e.id → w'.Covers (next ++ pending) id) : w'.Covers (next ++ pending) id := by
  rcases covered with known | waiting
  · exact .inl (outcome.mem_keys known)
  · rw [List.map_cons, List.mem_cons] at waiting
    rcases waiting with same | later
    · exact own same
    · refine .inr ?_
      rw [List.map_append, List.mem_append]
      exact .inr later

theorem Covers.redirected {target : String} (covered : w.Covers (e :: pending) id)
    (outcome : Outcome d w e new w' next) (aim : w'.Covers (next ++ pending) target) :
    w'.Covers (next ++ pending) (Workflow.redirectReference e.id target id) := by
  rw [Workflow.redirectReference]
  split
  · exact aim
  · rename_i other
    exact covered.onward outcome fun same => (other same).elim

/-- A visit that adds steps, one of them for `e`, keeps all covered if it covers what the steps lead to. -/
theorem Closing.of_registered (closing : w.Closing (e :: pending)) (outcome : Outcome d w e new w' next)
    (known : e.id ∈ w'.workflow.steps.keys) (bypassed : w'.bypassed = w.bypassed)
    (references : ∀ r ∈ w'.workflow.references, r ∈ w.workflow.references ∨ w'.Covers (next ++ pending) r) :
    w'.Closing (next ++ pending) := by
  constructor
  · intro r member
    rcases references r member with old | covered
    · exact (closing.references r old).onward outcome fun same => .inl (same ▸ known)
    · exact covered
  · intro g member
    rw [gateways_of_bypassed_eq bypassed] at member
    rw [standIn_of_bypassed_eq bypassed]
    exact (closing.standIns g member).onward outcome fun same => .inl (same ▸ known)

theorem closing_step (ordered : Ordered w.bypassed) (outcome : Outcome d w e new w' next)
    (closing : w.Closing (e :: pending)) : w'.Closing (next ++ pending) := by
  cases outcome with
  | registered known =>
    have outcome : Outcome d w e [] w [] := .registered known
    exact closing.of_registered outcome known rfl fun r member => .inl member
  | again fresh known workflow bypassed =>
    have outcome : Outcome d w e [] w' [] := .again fresh known workflow bypassed
    have covered : ∀ g ∈ w.gateways, w'.Covers ([] ++ pending) (w.standIn g) := fun g member =>
      (closing.standIns g member).onward outcome fun same => (ordered.standIn_ne known g same).elim
    constructor
    · intro r member
      rw [workflow, Workflow.references_redirect] at member
      obtain ⟨old, referenced, rfl⟩ := List.mem_map.mp member
      exact (closing.references old referenced).redirected outcome (covered e.id known)
    · intro g member
      rw [gateways_of_bypassed_eq bypassed] at member
      rw [standIn_of_bypassed_eq bypassed]
      exact covered g member
  | @bypassed _ successor fresh passes away workflow bypassed =>
    have outcome : Outcome d w e [e] w' [successor] := .bypassed fresh passes away workflow bypassed
    -- the successor itself is pending now, but what stands in for it may be further on
    have covered : w'.Covers ([successor] ++ pending) (w.standIn successor.id) := by
      by_cases known : successor.id ∈ w.gateways
      · exact (closing.standIns _ known).onward outcome fun same => (away same).elim
      · rw [standIn_of_notMem known]
        exact .inr List.mem_cons_self
    constructor
    · intro r member
      rw [workflow, Workflow.references_redirect] at member
      obtain ⟨old, referenced, rfl⟩ := List.mem_map.mp member
      exact (closing.references old referenced).redirected outcome covered
    · intro g member
      rw [standIn_snoc bypassed]
      rcases (mem_gateways_snoc bypassed).mp member with old | rfl
      · exact (closing.standIns g old).redirected outcome covered
      · rw [standIn_of_notMem (isSettled_eq_false_iff.mp fresh).2, Workflow.redirectReference, if_pos rfl]
        exact covered
  | ring fresh passes back workflow bypassed =>
    have known : e.id ∈ w'.workflow.steps.keys := by
      rw [workflow]
      exact Workflow.mem_keys_insertStep_self _ _ _
    refine closing.of_registered (.ring fresh passes back workflow bypassed) known bypassed ?_
    intro r member
    rw [workflow, Workflow.mem_references_insertStep (isSettled_eq_false_iff.mp fresh).1,
      Diagram.stepOf_of_bypass passes.isBypass] at member
    exact .inl (member.resolve_right (by simp [Element.endStep, Step.transitions]))
  | dangling fresh idle workflow bypassed =>
    have known : e.id ∈ w'.workflow.steps.keys := by
      rw [workflow]
      exact Workflow.mem_keys_insertStep_self _ _ _
    refine closing.of_registered (.dangling fresh idle workflow bypassed) known bypassed ?_
    intro r member
    rw [workflow, Workflow.mem_references_insertStep (notMem_keys_addStep_end fresh _),
      Workflow.mem_references_addStep_terminal] at member
    rcases member with old | ⟨t, leads, rfl⟩
    · exact .inl old
    · refine .inr (.inl ?_)
      rw [workflow, Workflow.mem_keys_insertStep, Workflow.mem_keys_addStep]
      rcases Diagram.target_stepOf leads with ⟨_, name⟩ | ⟨x, onward, _⟩
      · exact .inl (.inr name)
      · rw [Diagram.successors_of_idle idle] at onward
        cases onward
  | built fresh own busy workflow bypassed =>
    have known : e.id ∈ w'.workflow.steps.keys := by
      rw [workflow]
      exact Workflow.mem_keys_insertStep_self _ _ _
    refine closing.of_registered (.built fresh own busy workflow bypassed) known bypassed ?_
    intro r member
    rw [workflow, Workflow.mem_references_insertStep (isSettled_eq_false_iff.mp fresh).1] at member
    rcases member with old | ⟨t, leads, rfl⟩
    · exact .inl old
    · rcases Diagram.target_stepOf leads with ⟨idle, _⟩ | ⟨x, onward, name⟩
      · exact (busy idle).elim
      · refine .inr (.inr ?_)
        rw [name, List.map_append, List.mem_append]
        exact .inl (List.mem_map_of_mem onward)

end Step

theorem closing_start (name : String) (entry : Element) (diagnostics : Diagnostics) :
    (start name entry diagnostics).Closing [entry] := by
  constructor
  · intro r member
    have same : r = entry.id := List.mem_singleton.mp member
    exact .inr (same ▸ List.mem_singleton_self _)
  · intro g member
    cases member

theorem closing_run (d : Diagram) (name : String) (entry : Element) (diagnostics : Diagnostics) :
    (run d (start name entry diagnostics) [entry]).Closing [] :=
  (course_run d (start name entry diagnostics) [entry]).preserves (P := fun _ w pending => w.Closing pending)
    ordered_nil (closing_start name entry diagnostics) closing_step

/-- Once nothing is pending, every reference of the workflow names a step. -/
theorem isClosed_run (d : Diagram) (name : String) (entry : Element) (diagnostics : Diagnostics) :
    (run d (start name entry diagnostics) [entry]).workflow.isClosed = true := by
  rw [Workflow.isClosed_iff]
  intro r member
  exact ((closing_run d name entry diagnostics).references r member).resolve_right List.not_mem_nil

end Walk

namespace Diagram

variable {d : Diagram} {options : CompileOptions} {w : Workflow}

theorem workflow_validate (walk : Walk) : (Compilation.validate walk).workflow = walk.workflow := rfl

theorem eq_of_verdict {strict : Bool} {workflow : Workflow} {diagnostics : Diagnostics}
    (accepted : Compilation.verdict strict workflow diagnostics = .ok w) : w = workflow := by
  unfold Compilation.verdict at accepted
  split at accepted
  · cases accepted
  · exact (Except.ok.inj accepted).symm

theorem walk_of_compile (compiled : (d.compile options).result = .ok w) :
    ∃ entry diagnostics, Entry.resolve d = (some entry, diagnostics) ∧
      w = (d.walk options.name entry diagnostics).workflow := by
  rw [compile] at compiled
  rcases resolved : Entry.resolve d with ⟨_ | entry, diagnostics⟩
  · rw [resolved] at compiled
    cases compiled
  · rw [resolved] at compiled
    refine ⟨entry, diagnostics, rfl, (eq_of_verdict compiled).trans ?_⟩
    rw [apply_ite Walk.workflow, workflow_validate, ite_self]

theorem validate_walk (d : Diagram) (name : String) (entry : Entry) (diagnostics : Diagnostics) :
    Compilation.validate (d.walk name entry diagnostics) = d.walk name entry diagnostics := by
  have closed := Walk.isClosed_run d name entry.first diagnostics
  rw [Workflow.isClosed, Bool.and_eq_true, List.isEmpty_iff] at closed
  have none : (d.walk name entry diagnostics).workflow.danglingTransitions = [] := closed.2
  rw [Compilation.validate, none]
  rfl

/--
Whatever the diagram, a compiled workflow is closed. So the validation afterwards has nothing to
report, and it makes no difference whether it is asked for.
-/
theorem compile_closed (d : Diagram) (options : CompileOptions) :
    (∀ w, (d.compile options).result = .ok w →
      w.isClosed = true ∧ w.entryPoint ∈ w.steps.keys ∧
        ∀ id step, w.step? id = some step → ∀ t ∈ step.transitions, t.stepName ∈ w.steps.keys) ∧
    (∀ entry diagnostics,
      Compilation.validate (d.walk options.name entry diagnostics) = d.walk options.name entry diagnostics) ∧
    d.compile { options with validate := true } = d.compile { options with validate := false } := by
  refine ⟨?_, ?_, ?_⟩
  · intro w compiled
    obtain ⟨entry, diagnostics, _, rfl⟩ := walk_of_compile compiled
    have closed := Walk.isClosed_run d options.name entry.first diagnostics
    have named := Workflow.isClosed_iff.mp closed
    refine ⟨closed, named _ List.mem_cons_self, ?_⟩
    intro id step found t leads
    exact named _ (Workflow.mem_references_iff.mpr (.inr ⟨id, step, found, t, leads, rfl⟩))
  · intro entry diagnostics
    exact validate_walk d options.name entry diagnostics
  · rw [compile, compile]
    rcases Entry.resolve d with ⟨_ | entry, diagnostics⟩
    · rfl
    · simp only [validate_walk, if_true, if_false, Bool.false_eq_true]

def ringGateway : Element := ⟨"G1", none, .exclusiveGateway, none⟩

/-- A task, then a choice between a task that leads nowhere and a ring of two gateways. -/
def forkedRing : Diagram := .ofParts [
  .element ⟨"S", none, .startEvent, none⟩, .element ⟨"A", none, .task, none⟩,
  .element ⟨"C", none, .exclusiveGateway, none⟩, .element ⟨"U", none, .userTask, none⟩,
  .element ringGateway, .element ⟨"G2", some "Stuck", .exclusiveGateway, none⟩,
  .flow ⟨none, none, "S", "A"⟩, .flow ⟨none, none, "A", "C"⟩, .flow ⟨none, none, "C", "U"⟩,
  .flow ⟨none, none, "C", "G1"⟩, .flow ⟨none, none, "G1", "G2"⟩, .flow ⟨none, none, "G2", "G1"⟩]

def forkedRingWorkflow : Workflow where
  name := "ring"
  entryPoint := "A"
  steps := OrderedMap.empty
    |>.insert "A" (.task "" "" .guideline ⟨"C", "Continue", none⟩)
    |>.insert "C" (.condition "" "" [⟨"U", "", none⟩, ⟨"G2", "", none⟩])
    |>.insert "endEvent-U" (.terminal "End of workflow")
    |>.insert "U" (.task "" "" .guideline ⟨"endEvent-U", "End the workflow", none⟩)
    |>.insert "G2" (.terminal "Stuck")

theorem compile_forkedRing : (forkedRing.compile (.named "ring")).result = .ok forkedRingWorkflow := by cbv

theorem forkedRing_closed : (forkedRing.compile (.named "ring")).result = .ok forkedRingWorkflow ∧
    forkedRingWorkflow.isClosed = true :=
  ⟨compile_forkedRing, ((compile_closed forkedRing (.named "ring")).1 _ compile_forkedRing).1⟩

end Diagram

end BpmnWorkflow
