import BpmnWorkflow.Proofs.Walk.Trace

/-!
# What is compiled is what is reached

When nothing is pending, the walk has expanded what its first element leads to, and each ring of
gateways that only pass on has one member with a step. `keys_compile` puts the two together.
-/

namespace BpmnWorkflow

open Relation (ReflTransGen TransGen)

namespace Walk

namespace Finished

variable {d : Diagram} {first e g x : Element} {reached : List Element} {w : Walk}

theorem mem_reached_of_isSettled (finished : Finished d first reached w) (met : d.Meets first x)
    (settled : w.isSettled x.id = true) (apart : ∀ t ∈ reached, d.IsIdleTask t → x.id ≠ syntheticEndId t.id) :
    x ∈ reached := by
  rcases isSettled_iff.mp settled with known | known
  · rcases finished.traced.keys x.id known with ⟨e, member, same, _⟩ | ⟨t, member, idle, same⟩
    · exact finished.eq_of_id_eq member met same ▸ member
    · exact (apart t member idle same.symm).elim
  · exact (finished.mem_reached_of_gateway met known).1

theorem reaches (finished : Finished d first reached w) (member : e ∈ reached) : ReflTransGen d.LeadsTo first e :=
  finished.traced.reached e (List.mem_append_left _ member)

theorem mem_reached_iff (finished : Finished d first reached w)
    (apart : ∀ e t, ReflTransGen d.LeadsTo first e → ReflTransGen d.LeadsTo first t → d.IsIdleTask t →
      e.id ≠ syntheticEndId t.id) : e ∈ reached ↔ ReflTransGen d.LeadsTo first e := by
  refine ⟨finished.reaches, fun chain => ?_⟩
  have met := Diagram.meets_of_reaches chain
  refine finished.mem_reached_of_isSettled met ?_ fun t member => apart e t chain (finished.reaches member)
  -- a walk only promises that successors are settled, and that is what carries the induction
  induction chain with
  | refl => exact finished.isSettled_first
  | @tail y z before step ih =>
    have present : y ∈ reached :=
      finished.mem_reached_of_isSettled (Diagram.meets_of_reaches before) (ih (Diagram.meets_of_reaches before))
        fun t member => apart y t before (finished.reaches member)
    exact finished.isSettled_of_leadsTo present step

/-- Where a walk comes to a ring that it has expanded, it makes one member an end. -/
theorem exists_ring_end (finished : Finished d first reached w) (apart : Apart d reached) (ring : d.OnRing g)
    (expanded : ∀ x, ReflTransGen d.PassesTo g x → x ∈ reached) :
    ∃ m, ReflTransGen d.PassesTo g m ∧ w.workflow.step? m.id = some m.endStep ∧
      ∀ x, ReflTransGen d.PassesTo g x → x.id ∈ w.workflow.steps.keys → x = m := by
  have met : d.Meets first g := finished.meets (expanded g .refl)
  obtain ⟨m, chain, same⟩ := finished.traced.exists_standIn finished.unambiguous met
  have unbypassed : m.id ∉ w.gateways := same ▸ finished.ordered.standIn_notMem g.id
  have bypass : d.IsBypass m := (ring.along chain).1.isBypass
  refine ⟨m, chain, ?_, ?_⟩
  · rw [finished.step? apart (expanded m chain) unbypassed, Diagram.stepOf_of_bypass bypass]
    rfl
  · intro x onward known
    have back : ReflTransGen d.PassesTo m x := (ring.along chain).2.trans onward
    have stands := finished.standIn_along (expanded m chain) unbypassed back
    rw [standIn_of_notMem (finished.notMem_gateways_of_mem_keys apart known)] at stands
    exact finished.eq_of_id_eq (expanded x onward) (met.along chain) stands

end Finished

end Walk

namespace Diagram

/--
The steps of a compiled workflow: one for each reached element that is not bypassed, one end for
each reached ring of gateways, and one end after each reached task that leads nowhere.
-/
theorem keys_compile {d : Diagram} {options : CompileOptions} {w : Workflow}
    (compiled : (d.compile options).result = .ok w)
    (apart : ∀ e t, d.Reaches e → d.Reaches t → d.IsIdleTask t → e.id ≠ syntheticEndId t.id) :
    (∀ k, k ∈ w.steps.keys ↔
      (∃ e, d.Reaches e ∧ ¬ d.IsBypass e ∧ e.id = k) ∨
      (∃ g, d.Reaches g ∧ d.OnRing g ∧ w.step? g.id = some g.endStep ∧ g.id = k) ∨
      ∃ t, d.Reaches t ∧ d.IsIdleTask t ∧ syntheticEndId t.id = k) ∧
    ∀ g, d.Reaches g → d.OnRing g → ∃ m, ReflTransGen d.PassesTo g m ∧ w.step? m.id = some m.endStep ∧
      ∀ x, ReflTransGen d.PassesTo g x → x.id ∈ w.steps.keys → x = m := by
  obtain ⟨entry, diagnostics, resolved, rfl⟩ := walk_of_compile compiled
  have found : (Entry.resolve d).1 = some entry := by rw [resolved]
  have finished := finished_walk resolved options.name
  simp only [reaches_iff found] at apart ⊢
  have covered : ∀ e, e ∈ d.expanded options.name entry diagnostics ↔ ReflTransGen d.LeadsTo entry.first e :=
    fun e => finished.mem_reached_iff apart
  have apart' : Walk.Apart d (d.expanded options.name entry diagnostics) := fun e present t member =>
    apart e t ((covered e).mp present) ((covered t).mp member)
  have rings : ∀ g, ReflTransGen d.LeadsTo entry.first g → d.OnRing g → ∃ m, ReflTransGen d.PassesTo g m ∧
      (d.walk options.name entry diagnostics).workflow.step? m.id = some m.endStep ∧
      ∀ x, ReflTransGen d.PassesTo g x →
        x.id ∈ (d.walk options.name entry diagnostics).workflow.steps.keys → x = m := by
    intro g reached ring
    refine finished.exists_ring_end apart' ring fun x onward => (covered x).mpr ?_
    exact reached.trans (leadsTo_of_passesTo onward)
  refine ⟨fun k => ⟨fun known => ?_, ?_⟩, rings⟩
  · rcases finished.traced.keys k known with ⟨e, member, rfl, unbypassed⟩ | ⟨t, member, idle, same⟩
    · by_cases bypass : d.IsBypass e
      · have step := finished.step? apart' member unbypassed
        rw [stepOf_of_bypass bypass] at step
        exact .inr (.inl ⟨e, (covered e).mp member, finished.onRing member bypass unbypassed, step, rfl⟩)
      · exact .inl ⟨e, (covered e).mp member, bypass, rfl⟩
    · exact .inr (.inr ⟨t, (covered t).mp member, idle, same⟩)
  · rintro (⟨e, reached, own, rfl⟩ | ⟨g, _, _, step, rfl⟩ | ⟨t, reached, idle, rfl⟩)
    · have member := (covered e).mpr reached
      exact Walk.mem_keys_of_step? (finished.step? apart' member (finished.notMem_gateways (meets_of_reaches reached) own))
    · exact Walk.mem_keys_of_step? step
    · exact finished.traced.ends t ((covered t).mpr reached) idle

theorem onRing_ringGateway : forkedRing.OnRing ringGateway := by
  have out : forkedRing.live ringGateway =
      [⟨⟨none, none, "G1", "G2"⟩, ⟨"G2", some "Stuck", .exclusiveGateway, none⟩⟩] := by cbv
  have back : forkedRing.live ⟨"G2", some "Stuck", .exclusiveGateway, none⟩ =
      [⟨⟨none, none, "G2", "G1"⟩, ringGateway⟩] := by cbv
  exact TransGen.head ⟨rfl, _, out, rfl⟩ (.single ⟨rfl, _, back, rfl⟩)

theorem reaches_ringGateway : forkedRing.Reaches ringGateway := by
  have entry : (Entry.resolve forkedRing).1 =
      some ⟨⟨"S", none, .startEvent, none⟩, ⟨"A", none, .task, none⟩⟩ := by cbv
  have first : forkedRing.successors ⟨"A", none, .task, none⟩ = [⟨"C", none, .exclusiveGateway, none⟩] := by cbv
  have choice : forkedRing.successors ⟨"C", none, .exclusiveGateway, none⟩ =
      [⟨"U", none, .userTask, none⟩, ringGateway] := by cbv
  refine ⟨_, entry, .head (b := ⟨"C", none, .exclusiveGateway, none⟩) ?_ (.single ?_)⟩
  · rw [LeadsTo, first]
    exact List.mem_cons_self
  · rw [LeadsTo, choice]
    exact List.mem_cons_of_mem _ List.mem_cons_self

theorem forkedRing_apart : ∀ e t, forkedRing.Reaches e → forkedRing.Reaches t → forkedRing.IsIdleTask t →
    e.id ≠ syntheticEndId t.id := by
  have apart : forkedRing.elements.all
      (fun e => forkedRing.elements.all fun t => e.id != syntheticEndId t.id) = true := by cbv
  intro e t reachedE reachedT _
  exact bne_iff_ne.mp (List.all_eq_true.mp (List.all_eq_true.mp apart e reachedE.mem_elements) t reachedT.mem_elements)

theorem forkedRing_ring_end : (forkedRing.compile (.named "ring")).result = .ok forkedRingWorkflow ∧
    ∃ m, ReflTransGen forkedRing.PassesTo ringGateway m ∧ forkedRingWorkflow.step? m.id = some m.endStep ∧
      ∀ x, ReflTransGen forkedRing.PassesTo ringGateway x → x.id ∈ forkedRingWorkflow.steps.keys → x = m :=
  ⟨compile_forkedRing,
    (keys_compile compile_forkedRing forkedRing_apart).2 ringGateway reaches_ringGateway onRing_ringGateway⟩

end Diagram

end BpmnWorkflow
