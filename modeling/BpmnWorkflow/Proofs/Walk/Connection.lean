import BpmnWorkflow.Proofs.Walk.Trace
import BpmnWorkflow.Proofs.Workflow.Path

/-!
# Every step is led to

An end event has no transitions, so what its flows lead to is entered from nowhere. `Connected` says
of a walk on its way that all steps and all that is pending can be reached from the entry point or
from such a place; redirections change the paths and where they start together. `compile_connected`
says it of a compiled workflow.
-/

namespace BpmnWorkflow

open Relation (ReflTransGen)

namespace Walk

/-- Paths start at the entry point and at what stands in for what a flow out of an end event leads to. -/
def Opens (d : Diagram) (expanded : List Element) (w : Walk) (id : String) : Prop :=
  id = w.workflow.entryPoint ∨ ∃ e ∈ expanded, e.kind = .endEvent ∧ ∃ f ∈ d.live e, w.standIn f.target.id = id

def LedTo (d : Diagram) (expanded : List Element) (w : Walk) (id : String) : Prop :=
  ∃ opening, Opens d expanded w opening ∧ ReflTransGen w.workflow.Follows opening id

/-- Paths lead to every step and to whatever is still to be expanded. -/
structure Connected (d : Diagram) (expanded : List Element) (w : Walk) (pending : List Element) : Prop where
  steps : ∀ k ∈ w.workflow.steps.keys, LedTo d expanded w k
  pending : ∀ x ∈ pending, w.isSettled x.id = false → LedTo d expanded w x.id

structure Grown (w w' : Walk) : Prop where
  entryPoint : w'.workflow.entryPoint = w.workflow.entryPoint
  bypassed : w'.bypassed = w.bypassed
  follows : ∀ a b, w.workflow.Follows a b → w'.workflow.Follows a b

section Step

variable {d : Diagram} {w w' : Walk} {e x : Element} {expanded pending new next : List Element}
  {id source target : String}

theorem LedTo.tail (led : LedTo d expanded w source) (follows : w.workflow.Follows source id) :
    LedTo d expanded w id := by
  obtain ⟨opening, opens, path⟩ := led
  exact ⟨opening, opens, path.tail follows⟩

/-- Where stand-ins are redirected as references are, paths lead to what is redirected. -/
theorem LedTo.redirect (new : List Element) (fresh : source ∉ w.workflow.steps.keys)
    (workflow : w'.workflow = w.workflow.redirect source target)
    (standIns : ∀ r, w'.standIn r = Workflow.redirectReference source target (w.standIn r))
    (led : LedTo d expanded w id) :
    LedTo d (expanded ++ new) w' (Workflow.redirectReference source target id) := by
  obtain ⟨opening, opens, path⟩ := led
  refine ⟨Workflow.redirectReference source target opening, ?_, ?_⟩
  · rcases opens with rfl | ⟨e, member, ended, f, live, rfl⟩
    · rw [Opens, workflow]
      exact .inl rfl
    · exact .inr ⟨e, List.mem_append_left _ member, ended, f, live, standIns _⟩
  · rw [workflow]
    exact Workflow.path_redirect fresh path

theorem Grown.of_insertStep (fresh : id ∉ w.workflow.steps.keys) {step : Step}
    (workflow : w'.workflow = w.workflow.insertStep id step) (bypassed : w'.bypassed = w.bypassed) : Grown w w' where
  entryPoint := by rw [workflow]; rfl
  bypassed := bypassed
  follows a b leads := by
    rw [workflow]
    exact leads.insertStep fresh step

theorem LedTo.mono (grown : Grown w w') (led : LedTo d expanded w id) : LedTo d (expanded ++ new) w' id := by
  obtain ⟨opening, opens, path⟩ := led
  refine ⟨opening, ?_, ReflTransGen.mono grown.follows opening id path⟩
  rcases opens with rfl | ⟨e, member, ended, f, live, rfl⟩
  · exact .inl grown.entryPoint.symm
  · exact .inr ⟨e, List.mem_append_left _ member, ended, f, live, standIn_of_bypassed_eq grown.bypassed _⟩

theorem Outcome.unsettled_before (outcome : Outcome d w e new w' next) (unsettled : w'.isSettled id = false) :
    w.isSettled id = false := by
  cases before : w.isSettled id with
  | false => rfl
  | true => rw [← outcome.isSettled before, unsettled]

/-- A visit that redirects what refers to an identifier without a step keeps all else connected. -/
theorem Connected.of_redirected (connected : Connected d expanded w (e :: pending))
    (outcome : Outcome d w e new w' next) (fresh : e.id ∉ w.workflow.steps.keys)
    (workflow : w'.workflow = w.workflow.redirect e.id target)
    (standIns : ∀ r, w'.standIn r = Workflow.redirectReference e.id target (w.standIn r))
    (onward : ∀ x ∈ next, w'.isSettled x.id = false → LedTo d (expanded ++ new) w' x.id) :
    Connected d (expanded ++ new) w' (next ++ pending) := by
  have kept : ∀ k, k ≠ e.id → LedTo d expanded w k → LedTo d (expanded ++ new) w' k := by
    intro k other led
    have moved := led.redirect new fresh workflow standIns
    rwa [Workflow.redirectReference, if_neg other] at moved
  constructor
  · intro k known
    rw [workflow, Workflow.keys_redirect] at known
    exact kept k (fun same => fresh (same ▸ known)) (connected.steps k known)
  · intro x member unsettled
    rcases List.mem_append.mp member with after | later
    · exact onward x after unsettled
    · have other : x.id ≠ e.id := by
        intro same
        rw [same, outcome.isSettled_visited] at unsettled
        cases unsettled
      exact kept x.id other (connected.pending x (List.mem_cons_of_mem e later) (outcome.unsettled_before unsettled))

theorem Connected.of_added (connected : Connected d expanded w (e :: pending))
    (outcome : Outcome d w e new w' next) (grown : Grown w w')
    (added : ∀ k ∈ w'.workflow.steps.keys, k ∈ w.workflow.steps.keys ∨ LedTo d (expanded ++ new) w' k)
    (onward : ∀ x ∈ next, w'.isSettled x.id = false → LedTo d (expanded ++ new) w' x.id) :
    Connected d (expanded ++ new) w' (next ++ pending) := by
  constructor
  · intro k known
    rcases added k known with old | led
    · exact (connected.steps k old).mono grown
    · exact led
  · intro x member unsettled
    rcases List.mem_append.mp member with after | later
    · exact onward x after unsettled
    · have led := connected.pending x (List.mem_cons_of_mem e later) (outcome.unsettled_before unsettled)
      exact led.mono grown

theorem follows_stepOf (other : e.kind ≠ .endEvent) (own : ¬ d.IsBypass e) (step : d.LeadsTo e x) :
    ∃ t ∈ (d.stepOf e).transitions, t.stepName = x.id := by
  by_cases task : e.kind.isTask = true
  · rcases lives : d.live e with _ | ⟨first, rest⟩
    · rw [Diagram.LeadsTo, Diagram.successors_of_idle ⟨task, lives⟩] at step
      cases step
    · rw [Diagram.LeadsTo, Diagram.successors_of_task task lives] at step
      obtain rfl := List.mem_singleton.mp step
      rw [Diagram.stepOf_of_task task lives]
      exact ⟨_, List.mem_singleton_self _, rfl⟩
  · have unlike : e.kind.isTask = false := Bool.eq_false_iff.mpr task
    have gateway : e.kind = .exclusiveGateway := (ElementKind.isTask_eq_false_iff.mp unlike).resolve_right other
    rw [Diagram.LeadsTo, Diagram.successors_of_not_isTask unlike] at step
    obtain ⟨f, live, rfl⟩ := List.mem_map.mp step
    have some : 0 < (d.live e).length := List.length_pos_of_mem live
    have several : (d.live e).length ≠ 1 := fun single => own ⟨gateway, single⟩
    rw [Diagram.stepOf_of_choice gateway (by omega)]
    exact ⟨_, List.mem_map_of_mem live, rfl⟩

theorem connected_step (ordered : Ordered w.bypassed) (outcome : Outcome d w e new w' next)
    (connected : Connected d expanded w (e :: pending)) :
    Connected d (expanded ++ new) w' (next ++ pending) := by
  have visited : w.isSettled e.id = false → LedTo d expanded w e.id := connected.pending e List.mem_cons_self
  cases outcome with
  | registered known =>
    refine connected.of_added (.registered known) ⟨rfl, rfl, fun _ _ follows => follows⟩ ?_ ?_
    · exact fun k old => .inl old
    · exact fun x member => nomatch member
  | again fresh known workflow bypassed =>
    refine connected.of_redirected (.again fresh known workflow bypassed) fresh workflow ?_ ?_
    · intro r
      rw [standIn_of_bypassed_eq bypassed, Workflow.redirectReference, if_neg (ordered.standIn_ne known r)]
    · exact fun x member => nomatch member
  | @bypassed _ successor fresh passes away workflow bypassed =>
    have outcome : Outcome d w e [e] w' [successor] := .bypassed fresh passes away workflow bypassed
    have unregistered := (isSettled_eq_false_iff.mp fresh).1
    refine connected.of_redirected outcome unregistered workflow (standIn_snoc bypassed) ?_
    intro x member unsettled
    obtain rfl := List.mem_singleton.mp member
    -- an open successor stands in for itself, so what referred to the gateway refers to it now
    have unbypassed : x.id ∉ w.gateways := fun known =>
      (isSettled_eq_false_iff.mp unsettled).2 (outcome.mem_gateways known)
    have moved := (visited fresh).redirect [e] unregistered workflow (standIn_snoc bypassed)
    rwa [Workflow.redirectReference, if_pos rfl, standIn_of_notMem unbypassed] at moved
  | ring fresh passes back workflow bypassed =>
    have grown : Grown w w' := .of_insertStep (isSettled_eq_false_iff.mp fresh).1 workflow bypassed
    refine connected.of_added (.ring fresh passes back workflow bypassed) grown ?_ ?_
    · intro k known
      rw [workflow, Workflow.mem_keys_insertStep] at known
      refine known.imp_right ?_
      rintro rfl
      exact (visited fresh).mono grown
    · exact fun x member => nomatch member
  | dangling fresh idle workflow bypassed =>
    have grown : Grown w w' := by
      refine ⟨?_, bypassed, fun a b follows => ?_⟩
      · rw [workflow]
        exact Workflow.entryPoint_addStep _ _ _
      · rw [workflow]
        exact (follows.addStep _ _).insertStep (notMem_keys_addStep_end fresh _) _
    have led : LedTo d (expanded ++ [e]) w' e.id := (visited fresh).mono grown
    refine connected.of_added (.dangling fresh idle workflow bypassed) grown ?_ ?_
    · intro k known
      rw [workflow, Workflow.mem_keys_insertStep, Workflow.mem_keys_addStep] at known
      rcases known with (old | rfl) | rfl
      · exact .inl old
      · refine .inr (led.tail ?_)
        have leads : ⟨syntheticEndId e.id, syntheticEndButton, none⟩ ∈ (d.stepOf e).transitions := by
          rw [Diagram.stepOf_of_idle idle]
          exact List.mem_singleton_self _
        rw [workflow]
        exact Workflow.follows_insertStep _ _ leads
      · exact .inr led
    · exact fun x member => nomatch member
  | built fresh own busy workflow bypassed =>
    have outcome : Outcome d w e [e] w' (d.successors e) := .built fresh own busy workflow bypassed
    have grown : Grown w w' := .of_insertStep (isSettled_eq_false_iff.mp fresh).1 workflow bypassed
    have led : LedTo d (expanded ++ [e]) w' e.id := (visited fresh).mono grown
    refine connected.of_added outcome grown ?_ ?_
    · intro k known
      rw [workflow, Workflow.mem_keys_insertStep] at known
      refine known.imp_right ?_
      rintro rfl
      exact led
    · intro x step unsettled
      by_cases ended : e.kind = .endEvent
      · have unlike : e.kind.isTask = false := by rw [ended]; rfl
        rw [Diagram.successors_of_not_isTask unlike] at step
        obtain ⟨f, live, rfl⟩ := List.mem_map.mp step
        refine ⟨f.target.id, .inr ⟨e, by simp, ended, f, live, ?_⟩, .refl⟩
        exact standIn_of_notMem (isSettled_eq_false_iff.mp unsettled).2
      · obtain ⟨t, leads, named⟩ := follows_stepOf ended own step
        refine led.tail ?_
        rw [workflow, ← named]
        exact Workflow.follows_insertStep _ _ leads

end Step

theorem connected_start (d : Diagram) (name : String) (entry : Element) (diagnostics : Diagnostics) :
    Connected d [] (start name entry diagnostics) [entry] where
  steps _ known := nomatch known
  pending x member _ := by
    obtain rfl := List.mem_singleton.mp member
    exact ⟨x.id, .inl rfl, .refl⟩

theorem connected_run (d : Diagram) (name : String) (entry : Element) (diagnostics : Diagnostics) :
    Connected d (expansions d (start name entry diagnostics) [entry])
      (run d (start name entry diagnostics) [entry]) [] :=
  (course_run d (start name entry diagnostics) [entry]).preserves (P := Connected d) ordered_nil
    (connected_start d name entry diagnostics) connected_step

end Walk

namespace Diagram

/--
To every step of a compiled workflow there is a path from the entry point or from where a flow out of
an end event comes to; when no flow leaves an end event, there is one from the entry point.
-/
theorem compile_connected {d : Diagram} {options : CompileOptions} {w : Workflow}
    (compiled : (d.compile options).result = .ok w) :
    ∃ entry diagnostics, Entry.resolve d = (some entry, diagnostics) ∧
      (∀ k ∈ w.steps.keys, ∃ opening ∈ w.steps.keys, ReflTransGen w.Follows opening k ∧
        (opening = w.entryPoint ∨ ∃ e ∈ d.expanded options.name entry diagnostics, e.kind = .endEvent ∧
          ∃ f ∈ d.live e, (d.walk options.name entry diagnostics).EndsAt f.target.id opening)) ∧
      ((∀ e ∈ d.expanded options.name entry diagnostics, e.kind = .endEvent → d.live e = []) →
        ∀ k ∈ w.steps.keys, ReflTransGen w.Follows w.entryPoint k) := by
  obtain ⟨entry, diagnostics, resolved, rfl⟩ := walk_of_compile compiled
  have finished := finished_walk resolved options.name
  have connected := Walk.connected_run d options.name entry.first diagnostics
  refine ⟨entry, diagnostics, resolved, ?_, ?_⟩
  · intro k known
    obtain ⟨opening, rfl | ⟨e, member, ended, f, live, rfl⟩, path⟩ := connected.steps k known
    · exact ⟨_, ((compile_closed d options).1 _ compiled).2.1, path, .inl rfl⟩
    · have other : e.kind.isTask = false := by rw [ended]; rfl
      have step : d.LeadsTo e f.target := by
        rw [LeadsTo, successors_of_not_isTask other]
        exact List.mem_map_of_mem live
      refine ⟨_, finished.standIn_mem_keys (finished.isSettled_of_leadsTo member step), path, .inr ?_⟩
      exact ⟨e, member, ended, f, live, Walk.endsAt_terminus finished.ordered f.target.id⟩
  · intro closing k known
    obtain ⟨opening, rfl | ⟨e, member, ended, f, live, _⟩, path⟩ := connected.steps k known
    · exact path
    · rw [closing e member ended] at live
      cases live

/-- What comes after the end event `E`: a gateway that only passes on, a task and another end. -/
def epilogue : Diagram := .ofParts [
  .element ⟨"S", none, .startEvent, none⟩, .element ⟨"A", none, .task, none⟩,
  .element ⟨"E", none, .endEvent, none⟩, .element ⟨"G", none, .exclusiveGateway, none⟩,
  .element ⟨"B", none, .task, none⟩, .element ⟨"F", none, .endEvent, none⟩,
  .flow ⟨none, none, "S", "A"⟩, .flow ⟨none, none, "A", "E"⟩, .flow ⟨none, none, "E", "G"⟩,
  .flow ⟨none, none, "G", "B"⟩, .flow ⟨none, none, "B", "F"⟩]

def epilogueWorkflow : Workflow where
  name := "epilogue"
  entryPoint := "A"
  steps := OrderedMap.empty
    |>.insert "A" (.task "" "" .guideline ⟨"E", "Continue", none⟩)
    |>.insert "E" (.terminal "")
    |>.insert "B" (.task "" "" .guideline ⟨"F", "Continue", none⟩)
    |>.insert "F" (.terminal "")

theorem epilogue_connected : (epilogue.compile (.named "epilogue")).result = .ok epilogueWorkflow ∧
    ∃ entry diagnostics, Entry.resolve epilogue = (some entry, diagnostics) ∧
      ∃ opening ∈ epilogueWorkflow.steps.keys, ReflTransGen epilogueWorkflow.Follows opening "F" ∧
        (opening = "A" ∨ ∃ e ∈ epilogue.expanded "epilogue" entry diagnostics, e.kind = .endEvent ∧
          ∃ f ∈ epilogue.live e, (epilogue.walk "epilogue" entry diagnostics).EndsAt f.target.id opening) := by
  have compiled : (epilogue.compile (.named "epilogue")).result = .ok epilogueWorkflow := by cbv
  obtain ⟨entry, diagnostics, resolved, connected, _⟩ := compile_connected compiled
  exact ⟨compiled, entry, diagnostics, resolved, connected "F" (by decide)⟩

end Diagram

end BpmnWorkflow
