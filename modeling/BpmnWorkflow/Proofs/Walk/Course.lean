import BpmnWorkflow.Proofs.Diagram.FlowGraph
import BpmnWorkflow.Proofs.Walk.Chain
import BpmnWorkflow.Proofs.Workflow.References

/-!
# The course of a walk

`Outcome` says once what a visit can do to the workflow and to the bypassed gateways, and
`visit_outcome` that it does nothing else. A `Course` is a walk on its way, with the elements that it
has expanded; `course_run` says that `run` follows it to its end, and `Course.preserves` that what
every visit preserves holds all along it.
-/

namespace BpmnWorkflow

namespace Walk

def gateways (w : Walk) : List String := w.bypassed.map Prod.fst

/-- What references to `id` are redirected to, as far as gateways have been bypassed. -/
def standIn (w : Walk) (id : String) : String := terminus w.bypassed id

theorem standIn_of_notMem {w : Walk} {id : String} (fresh : id ∉ w.gateways) : w.standIn id = id :=
  terminus_of_notMem fresh

theorem Ordered.standIn_notMem {w : Walk} (ordered : Ordered w.bypassed) (id : String) :
    w.standIn id ∉ w.gateways :=
  ordered.terminus_notMem id

theorem Ordered.standIn_ne {w : Walk} {gateway : String} (ordered : Ordered w.bypassed)
    (known : gateway ∈ w.gateways) (id : String) : w.standIn id ≠ gateway := by
  rintro rfl
  exact ordered.standIn_notMem id known

theorem gateways_of_bypassed_eq {w w' : Walk} (same : w'.bypassed = w.bypassed) : w'.gateways = w.gateways :=
  congrArg (List.map Prod.fst) same

theorem standIn_of_bypassed_eq {w w' : Walk} (same : w'.bypassed = w.bypassed) (id : String) :
    w'.standIn id = w.standIn id :=
  congrArg (terminus · id) same

theorem mem_gateways_snoc {w w' : Walk} {gateway replacement id : String}
    (bypassed : w'.bypassed = w.bypassed ++ [(gateway, replacement)]) :
    id ∈ w'.gateways ↔ id ∈ w.gateways ∨ id = gateway := by
  simp [gateways, bypassed]

/-- One more bypassed gateway redirects what stands in, just as it redirects references. -/
theorem standIn_snoc {w w' : Walk} {gateway replacement : String}
    (bypassed : w'.bypassed = w.bypassed ++ [(gateway, replacement)]) (id : String) :
    w'.standIn id = Workflow.redirectReference gateway replacement (w.standIn id) := by
  rw [standIn, bypassed, terminus_append_singleton]
  rfl

theorem isRegistered_iff {w : Walk} {id : String} : w.isRegistered id = true ↔ id ∈ w.workflow.steps.keys :=
  OrderedMap.contains_iff

theorem isSettled_iff {w : Walk} {id : String} :
    w.isSettled id = true ↔ id ∈ w.workflow.steps.keys ∨ id ∈ w.gateways := by
  simp [isSettled, isRegistered_iff, gateways]

theorem isSettled_eq_false_iff {w : Walk} {id : String} :
    w.isSettled id = false ↔ id ∉ w.workflow.steps.keys ∧ id ∉ w.gateways := by
  rw [← Bool.not_eq_true, isSettled_iff, not_or]

theorem workflow_register (w : Walk) (id : String) (step : Step) :
    (w.register id step).workflow = w.workflow.addStep id step := by
  unfold register Workflow.addStep isRegistered
  split <;> rfl

theorem bypassed_register (w : Walk) (id : String) (step : Step) : (w.register id step).bypassed = w.bypassed := by
  unfold register
  split <;> rfl

/-! ### What a visit can do -/

/-- The expanded elements, the walk and the pending elements that visiting `e` can add or lead to. -/
inductive Outcome (d : Diagram) (w : Walk) (e : Element) : List Element → Walk → List Element → Prop
  | registered (known : e.id ∈ w.workflow.steps.keys) : Outcome d w e [] w []
  | again {w' : Walk} (fresh : e.id ∉ w.workflow.steps.keys) (known : e.id ∈ w.gateways)
      (workflow : w'.workflow = w.workflow.redirect e.id (w.standIn e.id))
      (bypassed : w'.bypassed = w.bypassed) : Outcome d w e [] w' []
  | bypassed {w' : Walk} {next : Element} (fresh : w.isSettled e.id = false) (passes : d.PassesTo e next)
      (away : w.standIn next.id ≠ e.id)
      (workflow : w'.workflow = w.workflow.redirect e.id (w.standIn next.id))
      (bypassed : w'.bypassed = w.bypassed ++ [(e.id, w.standIn next.id)]) : Outcome d w e [e] w' [next]
  | ring {w' : Walk} {next : Element} (fresh : w.isSettled e.id = false) (passes : d.PassesTo e next)
      (back : w.standIn next.id = e.id)
      (workflow : w'.workflow = w.workflow.insertStep e.id (d.stepOf e))
      (bypassed : w'.bypassed = w.bypassed) : Outcome d w e [e] w' []
  | dangling {w' : Walk} (fresh : w.isSettled e.id = false) (idle : d.IsIdleTask e)
      (workflow : w'.workflow =
        (w.workflow.addStep (syntheticEndId e.id) (.terminal syntheticEndTitle)).insertStep e.id (d.stepOf e))
      (bypassed : w'.bypassed = w.bypassed) : Outcome d w e [e] w' []
  | built {w' : Walk} (fresh : w.isSettled e.id = false) (own : ¬ d.IsBypass e) (busy : ¬ d.IsIdleTask e)
      (workflow : w'.workflow = w.workflow.insertStep e.id (d.stepOf e))
      (bypassed : w'.bypassed = w.bypassed) : Outcome d w e [e] w' (d.successors e)

theorem syntheticEndId_eq (id : String) : syntheticEndId id = "endEvent-" ++ id := rfl

theorem syntheticEndId_ne (id : String) : syntheticEndId id ≠ id := by
  intro same
  have lengths := congrArg String.length same
  rw [syntheticEndId_eq, String.length_append] at lengths
  have positive : 0 < "endEvent-".length := by decide
  omega

section Expand

variable {d : Diagram} {w : Walk} {e : Element} (entered : Walk)

theorem workflow_register_of_fresh (fresh : w.isSettled e.id = false) (workflow : entered.workflow = w.workflow)
    (step : Step) : (entered.register e.id step).workflow = w.workflow.insertStep e.id step := by
  rw [workflow_register, workflow]
  exact Workflow.addStep_of_fresh (isSettled_eq_false_iff.mp fresh).1 step

theorem notMem_keys_addStep_end (fresh : w.isSettled e.id = false) (end_ : Step) :
    e.id ∉ (w.workflow.addStep (syntheticEndId e.id) end_).steps.keys := by
  rw [Workflow.mem_keys_addStep, not_or]
  exact ⟨(isSettled_eq_false_iff.mp fresh).1, (syntheticEndId_ne e.id).symm⟩

theorem register_outcome (fresh : w.isSettled e.id = false) (own : ¬ d.IsBypass e) (busy : ¬ d.IsIdleTask e)
    (workflow : entered.workflow = w.workflow) (bypassed : entered.bypassed = w.bypassed) :
    Outcome d w e [e] (entered.register e.id (d.stepOf e)) (d.successors e) :=
  .built fresh own busy (workflow_register_of_fresh entered fresh workflow _)
    ((bypassed_register _ _ _).trans bypassed)

theorem addTask_outcome (fresh : w.isSettled e.id = false) (workflow : entered.workflow = w.workflow)
    (bypassed : entered.bypassed = w.bypassed) (task : e.kind.isTask = true) :
    Outcome d w e [e] (entered.addTask e (d.live e)).1 (entered.addTask e (d.live e)).2 := by
  have own : ¬ d.IsBypass e := Diagram.not_isBypass_of_isTask task
  rcases lives : d.live e with _ | ⟨first, rest⟩
  · refine .dangling fresh ⟨task, lives⟩ ?_ ?_
    · rw [addTask, workflow_register, workflow_register, Diagram.stepOf_of_idle ⟨task, lives⟩]
      simp only [warn, workflow]
      exact Workflow.addStep_of_fresh (notMem_keys_addStep_end fresh _) _
    · simp only [addTask, bypassed_register, warn, bypassed]
  · have busy : ¬ d.IsIdleTask e := fun idle => by simp [idle.2] at lives
    have step := Diagram.stepOf_of_task task lives
    have next := Diagram.successors_of_task task lives
    rcases rest with _ | ⟨second, rest⟩
    · have outcome := register_outcome entered fresh own busy workflow bypassed
      rwa [step, next] at outcome
    · have outcome := register_outcome (entered.warn (.crowdedTask e.id)) fresh own busy workflow bypassed
      rwa [step, next] at outcome

theorem skipGateway_outcome {next : Element} (ordered : Ordered w.bypassed) (fresh : w.isSettled e.id = false)
    (workflow : entered.workflow = w.workflow) (bypassed : entered.bypassed = w.bypassed)
    (passes : d.PassesTo e next) :
    Outcome d w e [e] (entered.skipGateway e next).1 (entered.skipGateway e next).2 := by
  have unbypassed : e.id ∉ w.bypassed.map Prod.fst := (isSettled_eq_false_iff.mp fresh).2
  have search : (entered.warn (.bypassedGateway e.id)).finalReplacement? e.id next.id =
      if w.standIn next.id = e.id then none else some (w.standIn next.id) :=
    (finalReplacement?_of_bypassed_eq bypassed e.id next.id).trans
      (finalReplacement?_of_notMem ordered unbypassed next.id)
  by_cases back : w.standIn next.id = e.id
  · rw [if_pos back] at search
    rw [skipGateway_of_none search, ← Diagram.stepOf_of_bypass passes.isBypass]
    refine .ring fresh passes back ?_ ((bypassed_register _ _ _).trans bypassed)
    exact workflow_register_of_fresh ((entered.warn _).warn _) fresh workflow _
  · rw [if_neg back] at search
    rw [skipGateway_of_some search]
    refine .bypassed fresh passes back ?_ ?_
    · simp only [bypass, workflow_redirect, warn, workflow]
    · simp only [bypass, bypassed_redirect, warn, bypassed]
      exact OrderedMap.place_of_fresh _ unbypassed

theorem addGateway_outcome (ordered : Ordered w.bypassed) (fresh : w.isSettled e.id = false)
    (workflow : entered.workflow = w.workflow) (bypassed : entered.bypassed = w.bypassed)
    (gateway : e.kind = .exclusiveGateway) :
    Outcome d w e [e] (entered.addGateway e (d.live e)).1 (entered.addGateway e (d.live e)).2 := by
  have other : e.kind.isTask = false := by rw [gateway]; rfl
  have busy : ¬ d.IsIdleTask e := Diagram.not_isIdleTask_of_not_isTask other
  rcases lives : d.live e with _ | ⟨first, _ | ⟨second, rest⟩⟩
  · have own : ¬ d.IsBypass e := fun bypass => absurd bypass.2 (by simp [lives])
    have outcome := register_outcome (entered.warn (.idleGateway e.id)) fresh own busy workflow bypassed
    rwa [Diagram.stepOf_of_few gateway (by simp [lives]), Diagram.successors_of_not_isTask other, lives] at outcome
  · exact skipGateway_outcome entered ordered fresh workflow bypassed ⟨gateway, first, lives, rfl⟩
  · have own : ¬ d.IsBypass e := fun bypass => absurd bypass.2 (by simp [lives])
    have outcome := register_outcome entered fresh own busy workflow bypassed
    rwa [Diagram.stepOf_of_choice gateway (by simp [lives]), Diagram.successors_of_not_isTask other, lives] at outcome

theorem expand_outcome (ordered : Ordered w.bypassed) (fresh : w.isSettled e.id = false) :
    Outcome d w e [e] (w.expand d e).1 (w.expand d e).2 := by
  unfold expand
  cases kind : e.kind with
  | exclusiveGateway => exact addGateway_outcome _ ordered fresh rfl rfl kind
  | endEvent =>
    have own : ¬ d.IsBypass e := fun bypass => by simp [bypass.1] at kind
    have other : e.kind.isTask = false := by rw [kind]; rfl
    have busy : ¬ d.IsIdleTask e := Diagram.not_isIdleTask_of_not_isTask other
    have outcome := register_outcome ((w.note (.visiting e.id e.kind)).warnAll
      ((d.deadFlows e.id ElementKind.isFlowTarget).map .unresolvedFlow)) fresh own busy rfl rfl
    rw [kind, Diagram.stepOf_of_end kind, Diagram.successors_of_not_isTask other] at outcome
    exact outcome
  | _ => exact addTask_outcome _ fresh rfl rfl (by rw [kind]; rfl)

def expands (w : Walk) (e : Element) : List Element :=
  if w.isRegistered e.id then []
  else
    match w.replacement? e.id with
    | some _ => []
    | none => [e]

theorem expands_eq (w : Walk) (e : Element) : w.expands e = if w.isSettled e.id then [] else [e] := by
  unfold expands
  split
  · rename_i registered
    rw [if_pos (isSettled_iff.mpr (.inl (isRegistered_iff.mp registered)))]
  · rename_i unregistered
    cases found : w.replacement? e.id with
    | some replacement => rw [if_pos (isSettled_of_replacement? found)]
    | none => simp [not_isSettled_of_none (Bool.eq_false_iff.mpr unregistered) found]

theorem visit_of_fresh (fresh : w.isSettled e.id = false) : w.visit d e = w.expand d e := by
  obtain ⟨unregistered, unbypassed⟩ := isSettled_eq_false_iff.mp fresh
  have open_ : w.replacement? e.id = none := List.lookup_eq_none_iff.mpr (bne_of_notMem unbypassed)
  rw [visit, if_neg fun registered => unregistered (isRegistered_iff.mp registered), open_]

theorem visit_outcome (ordered : Ordered w.bypassed) (e : Element) :
    Outcome d w e (w.expands e) (w.visit d e).1 (w.visit d e).2 := by
  unfold visit expands
  by_cases known : e.id ∈ w.workflow.steps.keys
  · rw [if_pos (isRegistered_iff.mpr known), if_pos (isRegistered_iff.mpr known)]
    exact .registered known
  have unregistered : ¬ w.isRegistered e.id = true := fun registered => known (isRegistered_iff.mp registered)
  rw [if_neg unregistered, if_neg unregistered]
  cases found : w.replacement? e.id with
  | some replacement =>
    have member : e.id ∈ w.gateways :=
      (isSettled_iff.mp (isSettled_of_replacement? found)).resolve_left known
    have search : w.finalReplacement? e.id replacement = some (w.standIn e.id) :=
      finalReplacement?_of_replacedBy ordered found
    simp only [search, Option.getD_some]
    exact .again known member (workflow_redirect _ _ _) rfl
  | none => exact expand_outcome ordered (not_isSettled_of_none (Bool.eq_false_iff.mpr unregistered) found)

end Expand

theorem Outcome.ordered {d : Diagram} {w w' : Walk} {e : Element} {new next : List Element}
    (outcome : Outcome d w e new w' next) (ordered : Ordered w.bypassed) : Ordered w'.bypassed := by
  cases outcome with
  | registered => exact ordered
  | bypassed fresh passes away workflow bypassed =>
    rw [bypassed]
    exact ordered.snoc (isSettled_eq_false_iff.mp fresh).2 (ordered.terminus_notMem _) away
  | again _ _ _ bypassed | ring _ _ _ _ bypassed | dangling _ _ _ bypassed | built _ _ _ _ bypassed =>
    rw [bypassed]
    exact ordered

section Settled

variable {d : Diagram} {w w' : Walk} {e : Element} {new next : List Element} {id : String}

theorem Outcome.mem_keys (outcome : Outcome d w e new w' next) (known : id ∈ w.workflow.steps.keys) :
    id ∈ w'.workflow.steps.keys := by
  cases outcome with
  | registered => exact known
  | again _ _ workflow _ | bypassed _ _ _ workflow _ => rwa [workflow, Workflow.keys_redirect]
  | ring _ _ _ workflow _ | built _ _ _ workflow _ =>
    rw [workflow, Workflow.mem_keys_insertStep]
    exact .inl known
  | dangling _ _ workflow _ =>
    rw [workflow, Workflow.mem_keys_insertStep, Workflow.mem_keys_addStep]
    exact .inl (.inl known)

theorem Outcome.mem_gateways (outcome : Outcome d w e new w' next) (known : id ∈ w.gateways) :
    id ∈ w'.gateways := by
  cases outcome with
  | registered => exact known
  | bypassed _ _ _ _ bypassed => exact (mem_gateways_snoc bypassed).mpr (.inl known)
  | again _ _ _ bypassed | ring _ _ _ _ bypassed | dangling _ _ _ bypassed | built _ _ _ _ bypassed =>
    rwa [gateways_of_bypassed_eq bypassed]

theorem Outcome.isSettled (outcome : Outcome d w e new w' next) (settled : w.isSettled id = true) :
    w'.isSettled id = true := by
  rw [isSettled_iff] at settled ⊢
  exact settled.imp outcome.mem_keys outcome.mem_gateways

/-- Whatever a visit expands was open before and is settled afterwards. -/
theorem Outcome.settles (outcome : Outcome d w e new w' next) {x : Element} (member : x ∈ new) :
    new = [e] ∧ x = e ∧ w.isSettled e.id = false ∧ w'.isSettled e.id = true := by
  cases outcome with
  | registered | again => cases member
  | bypassed fresh _ _ _ bypassed =>
    refine ⟨rfl, List.mem_singleton.mp member, fresh, isSettled_iff.mpr (.inr ?_)⟩
    exact (mem_gateways_snoc bypassed).mpr (.inr rfl)
  | ring fresh _ _ workflow _ | dangling fresh _ workflow _ | built fresh _ _ workflow _ =>
    refine ⟨rfl, List.mem_singleton.mp member, fresh, isSettled_iff.mpr (.inl ?_)⟩
    rw [workflow]
    exact Workflow.mem_keys_insertStep_self _ _ _

end Settled

/-! ### From the start to the end -/

/--
A walk on its way from `w₀` with `p₀` to visit: the elements that it has expanded, in order, the
walk that has come of them, and the elements that are still to be visited.
-/
inductive Course (d : Diagram) (w₀ : Walk) (p₀ : List Element) :
    List Element → Walk → List Element → Prop
  | start : Course d w₀ p₀ [] w₀ p₀
  | visit {expanded : List Element} {w : Walk} {e : Element} {pending : List Element} :
      Course d w₀ p₀ expanded w (e :: pending) →
      Course d w₀ p₀ (expanded ++ w.expands e) (w.visit d e).1 ((w.visit d e).2 ++ pending)

def expansions (d : Diagram) (w : Walk) : List Element → List Element
  | [] => []
  | e :: pending => w.expands e ++ expansions d (w.visit d e).1 ((w.visit d e).2 ++ pending)
termination_by pending => unfollowed d w + pending.length
decreasing_by
  have := unfollowed_visit d w e
  simp only [List.length_append, List.length_cons]
  omega

section Course

variable {d : Diagram} {w₀ w : Walk} {p₀ expanded pending : List Element}

theorem Course.finish (course : Course d w₀ p₀ expanded w pending) :
    Course d w₀ p₀ (expanded ++ expansions d w pending) (run d w pending) [] := by
  fun_induction run d w pending generalizing expanded with
  | case1 w => simpa [expansions] using course
  | case2 w e pending ih =>
    rw [expansions, ← List.append_assoc]
    exact ih course.visit

/-- Whatever way a walk goes, `run` goes it to the end. -/
theorem course_run (d : Diagram) (w : Walk) (pending : List Element) :
    Course d w pending (expansions d w pending) (run d w pending) [] :=
  Course.start.finish

theorem Course.ordered (initial : Ordered w₀.bypassed) (course : Course d w₀ p₀ expanded w pending) :
    Ordered w.bypassed := by
  induction course with
  | start => exact initial
  | visit _ ih => exact (visit_outcome ih _).ordered ih

/-- What every outcome of a visit preserves holds all along a course. -/
theorem Course.preserves {P : List Element → Walk → List Element → Prop} (initial : Ordered w₀.bypassed)
    (start : P [] w₀ p₀)
    (step : ∀ {expanded : List Element} {w : Walk} {e : Element} {pending new : List Element} {w' : Walk}
      {next : List Element}, Ordered w.bypassed → Outcome d w e new w' next →
      P expanded w (e :: pending) → P (expanded ++ new) w' (next ++ pending))
    (course : Course d w₀ p₀ expanded w pending) : P expanded w pending := by
  induction course with
  | start => exact start
  | visit course ih => exact step (course.ordered initial) (visit_outcome (course.ordered initial) _) ih

end Course

end Walk

end BpmnWorkflow
