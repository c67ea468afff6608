import BpmnWorkflow.Proofs.Walk.Course

/-!
# What a visit adds and what it leaves

The steps, the references and the bypassed gateways after a visit, against those before it. A visit
changes the name under which a step refers to another, but never what stands in for that name:
`Outcome.step?` and `Outcome.standIn_entryPoint` say so.
-/

namespace BpmnWorkflow

namespace Step

theorem mapTransitions_mapTransitions (f g : Transition → Transition) (s : Step) :
    (s.mapTransitions f).mapTransitions g = s.mapTransitions fun t => g (f t) := by
  cases s <;> simp [mapTransitions]

theorem mapTransitions_congr {f g : Transition → Transition} {s : Step} (same : ∀ t ∈ s.transitions, f t = g t) :
    s.mapTransitions f = s.mapTransitions g := by
  cases s with
  | task => simp [mapTransitions, same _ (List.mem_singleton_self _)]
  | condition title prompt outgoing =>
    have same : ∀ t ∈ outgoing, f t = g t := same
    rw [mapTransitions, mapTransitions, List.map_congr_left same]
  | terminal => rfl

theorem mapTransitions_id (s : Step) : s.mapTransitions (fun t => t) = s := by
  cases s <;> simp [mapTransitions]

end Step

namespace Walk

def settle (w : Walk) (s : Step) : Step := s.mapTransitions fun t => { t with stepName := w.standIn t.stepName }

section Effect

variable {d : Diagram} {w w' : Walk} {e : Element} {new next : List Element} {id : String} {step : Step}

/-! ### What stands in -/

theorem Ordered.standIn_standIn (ordered : Ordered w.bypassed) (id : String) :
    w.standIn (w.standIn id) = w.standIn id :=
  ordered.terminus_terminus id

/-- Whatever stood in for two names stands in for both of them or is replaced for both. -/
theorem Outcome.standIn_eq (outcome : Outcome d w e new w' next) :
    ∃ f : String → String, ∀ r, w'.standIn r = f (w.standIn r) := by
  cases outcome with
  | registered => exact ⟨fun r => r, fun r => rfl⟩
  | bypassed _ _ _ _ bypassed => exact ⟨_, fun r => standIn_snoc bypassed r⟩
  | again _ _ _ bypassed | ring _ _ _ _ bypassed | dangling _ _ _ bypassed | built _ _ _ _ bypassed =>
    exact ⟨fun r => r, standIn_of_bypassed_eq bypassed⟩

theorem Outcome.standIn_congr (outcome : Outcome d w e new w' next) {r s : String}
    (same : w.standIn r = w.standIn s) : w'.standIn r = w'.standIn s := by
  obtain ⟨f, factor⟩ := outcome.standIn_eq
  rw [factor, factor, same]

theorem settle_congr {f g : Step} (same : w.settle f = w.settle g) (outcome : Outcome d w e new w' next) :
    w'.settle f = w'.settle g := by
  obtain ⟨h, factor⟩ := outcome.standIn_eq
  have through : ∀ s, w'.settle s = (w.settle s).mapTransitions fun t => { t with stepName := h t.stepName } := by
    intro s
    rw [settle, settle, Step.mapTransitions_mapTransitions]
    simp only [factor]
  rw [through, through, same]

def Redirects (w' : Walk) (source target : String) : Prop :=
  ∀ r, w'.standIn (Workflow.redirectReference source target r) = w'.standIn r

theorem redirects_of_eq {source target : String} (same : w.standIn target = w.standIn source) :
    Redirects w source target := by
  intro r
  rw [Workflow.redirectReference]
  split
  · rename_i met
    rw [same, met]
  · rfl

theorem redirects_again (ordered : Ordered w.bypassed) (bypassed : w'.bypassed = w.bypassed) :
    Redirects w' e.id (w.standIn e.id) := by
  refine redirects_of_eq ?_
  rw [standIn_of_bypassed_eq bypassed, standIn_of_bypassed_eq bypassed]
  exact ordered.standIn_standIn e.id

theorem redirects_bypassed (ordered : Ordered w.bypassed) (fresh : w.isSettled e.id = false)
    (away : w.standIn id ≠ e.id) (bypassed : w'.bypassed = w.bypassed ++ [(e.id, w.standIn id)]) :
    Redirects w' e.id (w.standIn id) := by
  refine redirects_of_eq ?_
  rw [standIn_snoc bypassed, standIn_snoc bypassed, ordered.standIn_standIn,
    standIn_of_notMem (isSettled_eq_false_iff.mp fresh).2]
  simp [Workflow.redirectReference, away]

theorem Redirects.settle {source target : String} (redirects : Redirects w source target) (s : Step) :
    w.settle (s.mapTransitions fun t =>
      { t with stepName := Workflow.redirectReference source target t.stepName }) = w.settle s := by
  rw [Walk.settle, Walk.settle, Step.mapTransitions_mapTransitions]
  simp only [redirects _]

/-! ### Steps -/

theorem Redirects.step? {source target : String} (redirects : Redirects w' source target)
    (workflow : w'.workflow = w.workflow.redirect source target) (found : w.workflow.step? id = some step) :
    ∃ step', w'.workflow.step? id = some step' ∧ w'.settle step' = w'.settle step := by
  rw [workflow, Workflow.step?_redirect, found]
  exact ⟨_, rfl, redirects.settle step⟩

theorem mem_keys_of_step? (found : w.workflow.step? id = some step) : id ∈ w.workflow.steps.keys :=
  OrderedMap.mem_keys_iff.mpr ⟨step, found⟩

/-- Registered steps stay, up to what stands in for the names in them. -/
theorem Outcome.step? (ordered : Ordered w.bypassed) (outcome : Outcome d w e new w' next)
    (found : w.workflow.step? id = some step) :
    ∃ step', w'.workflow.step? id = some step' ∧ w'.settle step' = w'.settle step := by
  have known := mem_keys_of_step? found
  cases outcome with
  | registered => exact ⟨step, found, rfl⟩
  | again _ _ workflow bypassed => exact (redirects_again ordered bypassed).step? workflow found
  | bypassed fresh _ away workflow bypassed =>
    exact (redirects_bypassed ordered fresh away bypassed).step? workflow found
  | ring fresh _ _ workflow _ | built fresh _ _ workflow _ =>
    have other : id ≠ e.id := fun same => (isSettled_eq_false_iff.mp fresh).1 (same ▸ known)
    exact ⟨step, by rw [workflow, Workflow.step?_insertStep, if_neg other, found], rfl⟩
  | dangling fresh _ workflow _ =>
    have other : id ≠ e.id := fun same => (isSettled_eq_false_iff.mp fresh).1 (same ▸ known)
    refine ⟨step, ?_, rfl⟩
    rw [workflow, Workflow.step?_insertStep, if_neg other, Workflow.step?_addStep, if_neg, found]
    rintro ⟨same, absent⟩
    exact absent (same ▸ known)

theorem Outcome.standIn_entryPoint (ordered : Ordered w.bypassed) (outcome : Outcome d w e new w' next) :
    w'.standIn w'.workflow.entryPoint = w'.standIn w.workflow.entryPoint := by
  cases outcome with
  | registered => rfl
  | again _ _ workflow bypassed =>
    rw [workflow]
    exact redirects_again ordered bypassed _
  | bypassed fresh _ away workflow bypassed =>
    rw [workflow]
    exact redirects_bypassed ordered fresh away bypassed _
  | ring _ _ _ workflow _ | built _ _ _ workflow _ =>
    rw [workflow]
    rfl
  | dangling _ _ workflow _ =>
    rw [workflow]
    exact congrArg _ (Workflow.entryPoint_addStep _ _ _)

theorem Outcome.step?_expanded (outcome : Outcome d w e new w' next) (expanded : e ∈ new)
    (unbypassed : e.id ∉ w'.gateways) : w'.workflow.step? e.id = some (d.stepOf e) := by
  cases outcome with
  | registered | again => cases expanded
  | bypassed _ _ _ _ bypassed =>
    exact (unbypassed ((mem_gateways_snoc bypassed).mpr (.inr rfl))).elim
  | ring _ _ _ workflow _ | dangling _ _ workflow _ | built _ _ _ workflow _ =>
    rw [workflow, Workflow.step?_insertStep, if_pos rfl]

theorem Outcome.keys (outcome : Outcome d w e new w' next) (known : id ∈ w'.workflow.steps.keys) :
    id ∈ w.workflow.steps.keys ∨
      e ∈ new ∧ (id = e.id ∧ e.id ∉ w'.gateways ∨ d.IsIdleTask e ∧ id = syntheticEndId e.id) := by
  cases outcome with
  | registered => exact .inl known
  | again _ _ workflow _ | bypassed _ _ _ workflow _ =>
    rw [workflow, Workflow.keys_redirect] at known
    exact .inl known
  | ring fresh _ _ workflow bypassed | built fresh _ _ workflow bypassed =>
    have unbypassed : e.id ∉ w'.gateways := by
      rw [gateways_of_bypassed_eq bypassed]
      exact (isSettled_eq_false_iff.mp fresh).2
    rw [workflow, Workflow.mem_keys_insertStep] at known
    exact known.imp_right fun same => ⟨List.mem_singleton_self e, .inl ⟨same, unbypassed⟩⟩
  | dangling fresh idle workflow bypassed =>
    have unbypassed : e.id ∉ w'.gateways := by
      rw [gateways_of_bypassed_eq bypassed]
      exact (isSettled_eq_false_iff.mp fresh).2
    rw [workflow, Workflow.mem_keys_insertStep, Workflow.mem_keys_addStep] at known
    rcases known with (old | synthetic) | own
    · exact .inl old
    · exact .inr ⟨List.mem_singleton_self e, .inr ⟨idle, synthetic⟩⟩
    · exact .inr ⟨List.mem_singleton_self e, .inl ⟨own, unbypassed⟩⟩

theorem Outcome.mem_keys_of_idle (outcome : Outcome d w e new w' next) (expanded : e ∈ new) (idle : d.IsIdleTask e) :
    syntheticEndId e.id ∈ w'.workflow.steps.keys := by
  cases outcome with
  | registered | again => cases expanded
  | bypassed _ passes | ring _ passes => exact (Diagram.not_isBypass_of_isTask idle.1 passes.isBypass).elim
  | dangling _ _ workflow _ =>
    rw [workflow, Workflow.mem_keys_insertStep, Workflow.mem_keys_addStep]
    exact .inl (.inr rfl)
  | built _ _ busy => exact (busy idle).elim

/-! ### Bypassed gateways -/

theorem Outcome.mem_bypassed (outcome : Outcome d w e new w' next) {b : String × String} (member : b ∈ w'.bypassed) :
    b ∈ w.bypassed ∨ e ∈ new ∧ e.id ∉ w.workflow.steps.keys ∧
      ∃ x, d.PassesTo e x ∧ b = (e.id, w.standIn x.id) := by
  cases outcome with
  | registered => exact .inl member
  | bypassed fresh passes _ _ bypassed =>
    rw [bypassed, List.mem_append] at member
    refine member.imp_right fun own => ?_
    exact ⟨List.mem_singleton_self e, (isSettled_eq_false_iff.mp fresh).1, _, passes, List.mem_singleton.mp own⟩
  | again _ _ _ bypassed | ring _ _ _ _ bypassed | dangling _ _ _ bypassed | built _ _ _ _ bypassed =>
    exact .inl (bypassed ▸ member)

/-- An expanded gateway and what it passes to have the same stand-in. -/
theorem Outcome.standIn_passes (outcome : Outcome d w e new w' next)
    (expanded : e ∈ new) {x : Element} (passes : d.PassesTo e x) : w'.standIn x.id = w'.standIn e.id := by
  cases outcome with
  | registered | again => cases expanded
  | bypassed fresh passes' away _ bypassed =>
    obtain rfl := passes.unique passes'
    rw [standIn_snoc bypassed, standIn_snoc bypassed, standIn_of_notMem (isSettled_eq_false_iff.mp fresh).2]
    simp [Workflow.redirectReference, away]
  | ring fresh passes' back _ bypassed =>
    obtain rfl := passes.unique passes'
    rw [standIn_of_bypassed_eq bypassed, standIn_of_bypassed_eq bypassed]
    exact back.trans (standIn_of_notMem (isSettled_eq_false_iff.mp fresh).2).symm
  | dangling _ idle => exact (Diagram.not_isBypass_of_isTask idle.1 passes.isBypass).elim
  | built _ own => exact (own passes.isBypass).elim

/-! ### Pending elements -/

theorem Outcome.isSettled_visited (outcome : Outcome d w e new w' next) : w'.isSettled e.id = true := by
  by_cases settled : w.isSettled e.id = true
  · exact outcome.isSettled settled
  · have expanded : e ∈ new := by
      cases outcome with
      | registered known => exact (settled (isSettled_iff.mpr (.inl known))).elim
      | again _ known => exact (settled (isSettled_iff.mpr (.inr known))).elim
      | bypassed | ring | dangling | built => exact List.mem_singleton_self e
    exact (outcome.settles expanded).2.2.2

theorem Outcome.leadsTo (outcome : Outcome d w e new w' next) {x : Element} (member : x ∈ next) : d.LeadsTo e x := by
  cases outcome with
  | registered | again | ring | dangling => cases member
  | bypassed _ passes =>
    obtain rfl := List.mem_singleton.mp member
    exact passes.leadsTo
  | built => exact member

/-- An expansion leaves no successor out, unless it is settled. -/
theorem Outcome.successors (outcome : Outcome d w e new w' next) (expanded : e ∈ new) {x : Element}
    (step : d.LeadsTo e x) : w'.isSettled x.id = true ∨ x ∈ next := by
  cases outcome with
  | registered | again => cases expanded
  | bypassed _ passes =>
    rw [Diagram.LeadsTo, passes.successors] at step
    exact .inr step
  | ring fresh passes back workflow bypassed =>
    have outcome : Outcome d w e [e] w' [] := .ring fresh passes back workflow bypassed
    rw [Diagram.LeadsTo, passes.successors, List.mem_singleton] at step
    obtain rfl := step
    by_cases known : x.id ∈ w.gateways
    · exact .inl (outcome.isSettled (isSettled_iff.mpr (.inr known)))
    · rw [standIn_of_notMem known] at back
      rw [back]
      exact .inl outcome.isSettled_visited
  | dangling _ idle =>
    rw [Diagram.LeadsTo, Diagram.successors_of_idle idle] at step
    cases step
  | built => exact .inr step

end Effect

end Walk

end BpmnWorkflow
