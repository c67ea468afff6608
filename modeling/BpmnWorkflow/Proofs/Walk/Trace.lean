import BpmnWorkflow.Proofs.Walk.Closure
import BpmnWorkflow.Proofs.Walk.Effect

/-!
# What a walk leaves behind

`Traced` ties a walk on its way to the diagram: where its steps and its bypassed gateways come from,
what stands in for what, and what is still to be visited. `traced_step` is the step and `traced_run`
the run; `Finished` is what follows for a workflow when nothing is pending.
-/

namespace BpmnWorkflow

open Relation (ReflTransGen TransGen)

namespace Walk

def Awaits (w : Walk) (pending : List Element) (x : Element) : Prop := w.isSettled x.id = true ∨ x ∈ pending

/-- What is true of a walk from `first` on its way, after it has expanded `expanded`. -/
structure Traced (d : Diagram) (first : Element) (expanded : List Element) (w : Walk) (pending : List Element) :
    Prop where
  reached : ∀ e ∈ expanded ++ pending, ReflTransGen d.LeadsTo first e
  entered : w.Awaits pending first
  onward : ∀ e ∈ expanded, ∀ x, d.LeadsTo e x → w.Awaits pending x
  keys : ∀ k ∈ w.workflow.steps.keys,
    (∃ e ∈ expanded, e.id = k ∧ k ∉ w.gateways) ∨ ∃ t ∈ expanded, d.IsIdleTask t ∧ syntheticEndId t.id = k
  ends : ∀ t ∈ expanded, d.IsIdleTask t → syntheticEndId t.id ∈ w.workflow.steps.keys
  bypasses : ∀ b ∈ w.bypassed, ∃ a ∈ expanded, ∃ z, a.id = b.1 ∧ z.id = b.2 ∧ TransGen d.PassesTo a z
  passes : ∀ e ∈ expanded, ∀ x, d.PassesTo e x → w.standIn x.id = w.standIn e.id
  steps : ∀ e ∈ expanded, e.id ∉ w.gateways →
    ∃ step, w.workflow.step? e.id = some step ∧ w.settle step = w.settle (d.stepOf e)
  entry : w.standIn w.workflow.entryPoint = w.standIn first.id

/-- A chain of replacements follows the flows out of the gateways. -/
theorem exists_terminus {d : Diagram} {first x : Element} {bypassed : List (String × String)}
    (unambiguous : d.Unambiguous first)
    (links : ∀ b ∈ bypassed, ∃ a, d.Meets first a ∧ ∃ z, a.id = b.1 ∧ z.id = b.2 ∧ TransGen d.PassesTo a z)
    (met : d.Meets first x) : ∃ z, ReflTransGen d.PassesTo x z ∧ z.id = terminus bypassed x.id := by
  -- oldest first: a replacement can only be bypassed by what comes after it in the list
  induction bypassed generalizing x with
  | nil => exact ⟨x, .refl, rfl⟩
  | cons b newer ih =>
    have later := fun c member => links c (List.mem_cons_of_mem b member)
    rw [terminus]
    split
    · rename_i same
      obtain ⟨a, known, z, source, target, chain⟩ := links b List.mem_cons_self
      obtain rfl := known.eq_of_id_eq unambiguous met (source.trans same.symm)
      obtain ⟨y, onward, ends⟩ := ih later (met.along chain.to_reflTransGen)
      exact ⟨y, chain.to_reflTransGen.trans onward, target ▸ ends⟩
    · exact ih later met

section Step

variable {d : Diagram} {first e x : Element} {w w' : Walk} {expanded pending new next : List Element}

theorem Traced.meets (traced : Traced d first expanded w pending) (member : x ∈ expanded) : d.Meets first x :=
  Diagram.meets_of_reaches (traced.reached x (List.mem_append_left _ member))

theorem Traced.exists_standIn (traced : Traced d first expanded w pending) (unambiguous : d.Unambiguous first)
    (met : d.Meets first x) : ∃ z, ReflTransGen d.PassesTo x z ∧ z.id = w.standIn x.id := by
  refine exists_terminus unambiguous (fun b member => ?_) met
  obtain ⟨a, present, link⟩ := traced.bypasses b member
  exact ⟨a, traced.meets present, link⟩

theorem Awaits.onward (awaited : w.Awaits (e :: pending) x) (outcome : Outcome d w e new w' next) :
    w'.Awaits (next ++ pending) x := by
  rcases awaited with settled | waiting
  · exact .inl (outcome.isSettled settled)
  · rcases List.mem_cons.mp waiting with rfl | later
    · exact .inl outcome.isSettled_visited
    · exact .inr (List.mem_append_right _ later)

/-- A step stays out of the gateways, for only what has no step is bypassed. -/
theorem Outcome.notMem_gateways {k : String} (outcome : Outcome d w e new w' next)
    (known : k ∈ w.workflow.steps.keys) (unbypassed : k ∉ w.gateways) : k ∉ w'.gateways := by
  intro again
  obtain ⟨b, member, rfl⟩ := List.mem_map.mp again
  rcases outcome.mem_bypassed member with old | ⟨_, fresh, _, _, rfl⟩
  · exact unbypassed (List.mem_map_of_mem old)
  · exact fresh known

theorem traced_step (unambiguous : d.Unambiguous first) (ordered : Ordered w.bypassed)
    (outcome : Outcome d w e new w' next) (traced : Traced d first expanded w (e :: pending)) :
    Traced d first (expanded ++ new) w' (next ++ pending) := by
  have visited : ReflTransGen d.LeadsTo first e := traced.reached e (by simp)
  have own : ∀ y ∈ new, y = e := fun y member => (outcome.settles member).2.1
  constructor
  case reached =>
    intro y member
    simp only [List.mem_append] at member
    rcases member with (old | added) | (after | later)
    · exact traced.reached y (List.mem_append_left _ old)
    · exact own y added ▸ visited
    · exact visited.tail (outcome.leadsTo after)
    · exact traced.reached y (by simp [later])
  case entered => exact traced.entered.onward outcome
  case onward =>
    intro y member x step
    rcases List.mem_append.mp member with old | added
    · exact (traced.onward y old x step).onward outcome
    · obtain rfl := own y added
      exact (outcome.successors added step).imp_right (List.mem_append_left _)
  case keys =>
    intro k known
    rcases outcome.keys known with old | ⟨added, ⟨rfl, unbypassed⟩ | ⟨idle, rfl⟩⟩
    · rcases traced.keys k old with ⟨y, member, same, unbypassed⟩ | ⟨t, member, idle, same⟩
      · exact .inl ⟨y, List.mem_append_left _ member, same, outcome.notMem_gateways old unbypassed⟩
      · exact .inr ⟨t, List.mem_append_left _ member, idle, same⟩
    · exact .inl ⟨e, List.mem_append_right _ added, rfl, unbypassed⟩
    · exact .inr ⟨e, List.mem_append_right _ added, idle, rfl⟩
  case ends =>
    intro t member idle
    rcases List.mem_append.mp member with old | added
    · exact outcome.mem_keys (traced.ends t old idle)
    · obtain rfl := own t added
      exact outcome.mem_keys_of_idle added idle
  case bypasses =>
    intro b member
    rcases outcome.mem_bypassed member with old | ⟨added, _, x, step, rfl⟩
    · obtain ⟨a, present, link⟩ := traced.bypasses b old
      exact ⟨a, List.mem_append_left _ present, link⟩
    · obtain ⟨z, chain, same⟩ := traced.exists_standIn unambiguous (step.leadsTo.meets first)
      exact ⟨e, List.mem_append_right _ added, z, rfl, same, TransGen.head' step chain⟩
  case passes =>
    intro y member x step
    rcases List.mem_append.mp member with old | added
    · exact outcome.standIn_congr (traced.passes y old x step)
    · obtain rfl := own y added
      exact outcome.standIn_passes added step
  case steps =>
    intro y member unbypassed
    rcases List.mem_append.mp member with old | added
    · have before : y.id ∉ w.gateways := fun known => unbypassed (outcome.mem_gateways known)
      obtain ⟨step, found, same⟩ := traced.steps y old before
      obtain ⟨step', found', same'⟩ := outcome.step? ordered found
      exact ⟨step', found', same'.trans (settle_congr same outcome)⟩
    · obtain rfl := own y added
      exact ⟨d.stepOf y, outcome.step?_expanded added unbypassed, rfl⟩
  case entry => exact (outcome.standIn_entryPoint ordered).trans (outcome.standIn_congr traced.entry)

end Step

theorem traced_start (d : Diagram) (name : String) (first : Element) (diagnostics : Diagnostics) :
    Traced d first [] (start name first diagnostics) [first] where
  reached e member := by
    obtain rfl := List.mem_singleton.mp member
    exact .refl
  entered := .inr (List.mem_singleton_self first)
  onward _ member := nomatch member
  keys _ known := nomatch known
  ends _ member := nomatch member
  bypasses _ member := nomatch member
  passes _ member := nomatch member
  steps _ member := nomatch member
  entry := rfl

theorem traced_run {d : Diagram} {first : Element} (unambiguous : d.Unambiguous first) (name : String)
    (diagnostics : Diagnostics) :
    Traced d first (expansions d (start name first diagnostics) [first])
      (run d (start name first diagnostics) [first]) [] :=
  (course_run d (start name first diagnostics) [first]).preserves (P := Traced d first) ordered_nil
    (traced_start d name first diagnostics) (traced_step unambiguous)

/-! ### When nothing is pending -/

/-- No reached element has the identifier of the end that is added after a reached task. -/
def Apart (d : Diagram) (reached : List Element) : Prop :=
  ∀ e ∈ reached, ∀ t ∈ reached, d.IsIdleTask t → e.id ≠ syntheticEndId t.id

/-- A walk from `first` that has come to its end, with the elements that it has expanded. -/
structure Finished (d : Diagram) (first : Element) (reached : List Element) (w : Walk) : Prop where
  unambiguous : d.Unambiguous first
  ordered : Ordered w.bypassed
  closing : w.Closing []
  traced : Traced d first reached w []

namespace Finished

variable {d : Diagram} {first e t x : Element} {reached : List Element} {w : Walk} {k r : String}

theorem meets (finished : Finished d first reached w) (member : e ∈ reached) : d.Meets first e :=
  finished.traced.meets member

/-- Whatever shares its identifier with a reached element is that element. -/
theorem eq_of_id_eq (finished : Finished d first reached w) (member : e ∈ reached) (met : d.Meets first x)
    (same : e.id = x.id) : e = x :=
  (finished.meets member).eq_of_id_eq finished.unambiguous met same

theorem isSettled_first (finished : Finished d first reached w) : w.isSettled first.id = true :=
  finished.traced.entered.resolve_right List.not_mem_nil

theorem isSettled_of_leadsTo (finished : Finished d first reached w) (member : e ∈ reached) (step : d.LeadsTo e x) :
    w.isSettled x.id = true :=
  (finished.traced.onward e member x step).resolve_right List.not_mem_nil

theorem exists_gateway (finished : Finished d first reached w) (known : k ∈ w.gateways) :
    ∃ g ∈ reached, g.id = k ∧ d.IsBypass g := by
  obtain ⟨b, member, rfl⟩ := List.mem_map.mp known
  obtain ⟨g, present, z, source, _, chain⟩ := finished.traced.bypasses b member
  obtain ⟨y, step, _⟩ := TransGen.head'_iff.mp chain
  exact ⟨g, present, source, step.isBypass⟩

theorem mem_reached_of_gateway (finished : Finished d first reached w) (met : d.Meets first x)
    (known : x.id ∈ w.gateways) : x ∈ reached ∧ d.IsBypass x := by
  obtain ⟨g, present, same, bypass⟩ := finished.exists_gateway known
  obtain rfl := finished.eq_of_id_eq present met same
  exact ⟨present, bypass⟩

theorem notMem_gateways (finished : Finished d first reached w) (met : d.Meets first x) (own : ¬ d.IsBypass x) :
    x.id ∉ w.gateways :=
  fun known => own (finished.mem_reached_of_gateway met known).2

theorem standIn_mem_keys (finished : Finished d first reached w) (settled : w.isSettled k = true) :
    w.standIn k ∈ w.workflow.steps.keys := by
  by_cases known : k ∈ w.gateways
  · exact (finished.closing.standIns k known).resolve_right List.not_mem_nil
  · rw [standIn_of_notMem known]
    exact (isSettled_iff.mp settled).resolve_right known

theorem notMem_gateways_of_mem_keys (finished : Finished d first reached w) (apart : Apart d reached)
    (known : k ∈ w.workflow.steps.keys) : k ∉ w.gateways := by
  rcases finished.traced.keys k known with ⟨_, _, _, unbypassed⟩ | ⟨t, member, idle, rfl⟩
  · exact unbypassed
  · intro bypassed
    obtain ⟨g, present, same, _⟩ := finished.exists_gateway bypassed
    exact apart g present t member idle same

theorem standIn_reference (finished : Finished d first reached w) (apart : Apart d reached)
    (member : r ∈ w.workflow.references) : w.standIn r = r :=
  standIn_of_notMem (finished.notMem_gateways_of_mem_keys apart
    ((finished.closing.references r member).resolve_right List.not_mem_nil))

theorem entryPoint (finished : Finished d first reached w) (apart : Apart d reached) :
    w.workflow.entryPoint = w.standIn first.id := by
  rw [← finished.traced.entry]
  exact (finished.standIn_reference apart List.mem_cons_self).symm

theorem settle_step (finished : Finished d first reached w) (apart : Apart d reached) {step : Step}
    (found : w.workflow.step? k = some step) : w.settle step = step := by
  refine (Step.mapTransitions_congr fun t leads => ?_).trans (Step.mapTransitions_id step)
  have named := Workflow.mem_references_iff.mpr (.inr ⟨k, step, found, t, leads, rfl⟩)
  rw [finished.standIn_reference apart named]

/-- A reached element that is not bypassed has its own step, with stand-ins for what it refers to. -/
theorem step? (finished : Finished d first reached w) (apart : Apart d reached) (member : e ∈ reached)
    (unbypassed : e.id ∉ w.gateways) : w.workflow.step? e.id = some (w.settle (d.stepOf e)) := by
  obtain ⟨step, found, same⟩ := finished.traced.steps e member unbypassed
  rw [found, ← same, finished.settle_step apart found]

/-! ### Rings -/

/-- Only a ring can make a gateway that passes on a step. -/
theorem onRing (finished : Finished d first reached w) (member : e ∈ reached) (bypass : d.IsBypass e)
    (unbypassed : e.id ∉ w.gateways) : d.OnRing e := by
  obtain ⟨x, step⟩ := Diagram.isBypass_iff.mp bypass
  have met : d.Meets first x := step.leadsTo.meets first
  obtain ⟨z, chain, same⟩ := finished.traced.exists_standIn finished.unambiguous met
  rw [finished.traced.passes e member x step, standIn_of_notMem unbypassed] at same
  obtain rfl := finished.eq_of_id_eq member (met.along chain) same.symm
  exact TransGen.head' step chain

theorem standIn_along (finished : Finished d first reached w) (member : e ∈ reached) (unbypassed : e.id ∉ w.gateways)
    (chain : ReflTransGen d.PassesTo e x) : w.standIn x.id = e.id := by
  induction chain with
  | refl => exact standIn_of_notMem unbypassed
  | @tail y z before step ih =>
    have met := (finished.meets member).along before
    -- `y` was expanded: as a bypassed gateway, or because nothing but `e` stands in for itself here
    have present : y ∈ reached := by
      by_cases known : y.id ∈ w.gateways
      · exact (finished.mem_reached_of_gateway met known).1
      · rw [standIn_of_notMem known] at ih
        obtain rfl := finished.eq_of_id_eq member met ih.symm
        exact member
    rw [finished.traced.passes y present z step, ih]

end Finished

end Walk

namespace Diagram

def expanded (d : Diagram) (name : String) (entry : Entry) (diagnostics : Diagnostics) : List Element :=
  Walk.expansions d (Walk.start name entry.first diagnostics) [entry.first]

theorem finished_walk {d : Diagram} {entry : Entry} {diagnostics : Diagnostics}
    (resolved : Entry.resolve d = (some entry, diagnostics)) (name : String) :
    Walk.Finished d entry.first (d.expanded name entry diagnostics) (d.walk name entry diagnostics) where
  unambiguous := Entry.resolved_entry_unambiguous (by rw [resolved])
  ordered := (Walk.course_run d _ _).ordered Walk.ordered_nil
  closing := Walk.closing_run d name entry.first diagnostics
  traced := Walk.traced_run (Entry.resolved_entry_unambiguous (by rw [resolved])) name diagnostics

end Diagram

end BpmnWorkflow
