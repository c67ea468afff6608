import BpmnWorkflow.Proofs.Walk.Coverage

/-!
# Compiling contracts gateways

`Contraction` says what a compiled workflow is in terms of the diagram: each step leads to what its
flows come to when gateways that only pass on are left out. `contraction_iff` says exactly when a
walk gives that. The one obstacle is a gateway whose identifier is taken by the end that was added
after a task, for such a gateway is taken for a step.
-/

namespace BpmnWorkflow

open Relation (ReflTransGen)

namespace Diagram

/--
`x` comes to `m` by way of gateways that only pass on: `m` is the first element that is none, or the
member of a ring of them that was made an end.
-/
def ContractsTo (d : Diagram) (reached : List Element) (w : Workflow) (x m : Element) : Prop :=
  ReflTransGen d.PassesTo x m ∧
    (¬ d.IsBypass m ∨ d.OnRing m ∧ m ∈ reached ∧ w.step? m.id = some m.endStep)

/-- What the entry point and the transitions of the steps are drawn to. -/
def Drawn (d : Diagram) (first : Element) (reached : List Element) (x : Element) : Prop :=
  x = first ∨ ∃ e ∈ reached, ¬ d.IsBypass e ∧ e.kind ≠ .endEvent ∧ d.LeadsTo e x

/-- The workflow is the diagram with `c` for the gateways that only pass on. -/
structure Contraction (d : Diagram) (first : Element) (reached : List Element) (w : Workflow)
    (c : Element → Element) : Prop where
  contracts : ∀ x, d.Drawn first reached x → ∀ m, d.ContractsTo reached w x m ↔ m = c x
  entry : w.entryPoint = (c first).id
  tasks : ∀ e ∈ reached, e.kind.isTask = true → ∀ f rest, d.live e = f :: rest →
    w.step? e.id = some (.task (e.name.getD "") (e.documentation.getD "")
      (if e.kind = .serviceTask then .aiExecuted else .guideline)
      ⟨(c f.target).id, f.flow.name.getD "Continue", none⟩)
  idleTasks : ∀ e ∈ reached, e.kind.isTask = true → d.live e = [] →
    w.step? e.id = some (.task (e.name.getD "") (e.documentation.getD "")
      (if e.kind = .serviceTask then .aiExecuted else .guideline)
      ⟨"endEvent-" ++ e.id, "End the workflow", none⟩)
  conditions : ∀ e ∈ reached, e.kind = .exclusiveGateway → 2 ≤ (d.live e).length →
    w.step? e.id = some (.condition (e.name.getD "") (e.documentation.getD "")
      ((d.live e).map fun f => ⟨(c f.target).id, f.flow.name.getD "", f.flow.name⟩))
  ends : ∀ e ∈ reached, e.kind = .endEvent ∨ e.kind = .exclusiveGateway ∧ d.live e = [] →
    w.step? e.id = some (.terminal (e.name.getD ""))

/-- No gateway on the way from what is drawn has the identifier of an end that is added. -/
def Unclashed (d : Diagram) (first : Element) (reached : List Element) : Prop :=
  ∀ x, d.Drawn first reached x → ∀ z, ReflTransGen d.PassesTo x z → d.IsBypass z →
    ∀ t ∈ reached, d.IsIdleTask t → z.id ≠ syntheticEndId t.id

end Diagram

namespace Walk

namespace Finished

variable {d : Diagram} {first e m x z : Element} {reached : List Element} {w : Walk} {c : Element → Element}

theorem meets_drawn (finished : Finished d first reached w) (drawn : d.Drawn first reached x) :
    d.Meets first x ∧ w.isSettled x.id = true := by
  rcases drawn with rfl | ⟨e, member, _, _, step⟩
  · exact ⟨.inl rfl, finished.isSettled_first⟩
  · exact ⟨step.meets first, finished.isSettled_of_leadsTo member step⟩

/-- What stands in for `x` is found on every chain from `x` that leads to something not bypassed. -/
theorem standIn_before (finished : Finished d first reached w) (met : d.Meets first x)
    (chain : ReflTransGen d.PassesTo x z) (unbypassed : z.id ∉ w.gateways) :
    ∃ y, ReflTransGen d.PassesTo x y ∧ ReflTransGen d.PassesTo y z ∧ y.id ∉ w.gateways ∧ w.standIn x.id = y.id := by
  induction chain using ReflTransGen.head_induction_on with
  | refl => exact ⟨z, .refl, .refl, unbypassed, standIn_of_notMem unbypassed⟩
  | @head a b step rest ih =>
    by_cases known : a.id ∈ w.gateways
    · obtain ⟨y, before, after, steady, stands⟩ := ih (step.leadsTo.meets first)
      have passed := finished.traced.passes a (finished.mem_reached_of_gateway met known).1 b step
      exact ⟨y, before.head step, after, steady, passed.symm.trans stands⟩
    · exact ⟨a, .refl, rest.head step, known, standIn_of_notMem known⟩

/-! ### From the walk to the contraction -/

section Unclashed

variable (finished : Finished d first reached w) (apart : Apart d reached) (unclashed : d.Unclashed first reached)

include finished unclashed in
/-- A gateway that stands in for something drawn was expanded and closes a ring. -/
theorem onRing_of_standIn (drawn : d.Drawn first reached x) (chain : ReflTransGen d.PassesTo x m)
    (stands : w.standIn x.id = m.id) (bypass : d.IsBypass m) : m ∈ reached ∧ d.OnRing m := by
  obtain ⟨met, settled⟩ := finished.meets_drawn drawn
  have known : m.id ∈ w.workflow.steps.keys := stands ▸ finished.standIn_mem_keys settled
  have unbypassed : m.id ∉ w.gateways := stands ▸ finished.ordered.standIn_notMem x.id
  have member : m ∈ reached := finished.mem_reached_of_isSettled (met.along chain) (isSettled_iff.mpr (.inl known))
    fun t present idle => unclashed x drawn m chain bypass t present idle
  exact ⟨member, finished.onRing member bypass unbypassed⟩

include finished apart unclashed in
theorem contractsTo_of_standIn (drawn : d.Drawn first reached x) (chain : ReflTransGen d.PassesTo x m)
    (stands : w.standIn x.id = m.id) : d.ContractsTo reached w.workflow x m := by
  refine ⟨chain, ?_⟩
  by_cases bypass : d.IsBypass m
  · obtain ⟨member, ring⟩ := finished.onRing_of_standIn unclashed drawn chain stands bypass
    have unbypassed : m.id ∉ w.gateways := stands ▸ finished.ordered.standIn_notMem x.id
    refine .inr ⟨ring, member, ?_⟩
    rw [finished.step? apart member unbypassed, Diagram.stepOf_of_bypass bypass]
    rfl
  · exact .inl bypass

include finished apart unclashed in
theorem standIn_of_contractsTo (drawn : d.Drawn first reached x)
    (contracts : d.ContractsTo reached w.workflow x m) : w.standIn x.id = m.id := by
  obtain ⟨chain, last⟩ := contracts
  have met := (finished.meets_drawn drawn).1
  have unbypassed : m.id ∉ w.gateways := by
    rcases last with own | ⟨_, _, ended⟩
    · exact finished.notMem_gateways (met.along chain) own
    · exact finished.notMem_gateways_of_mem_keys apart (mem_keys_of_step? ended)
  obtain ⟨y, before, after, steady, stands⟩ := finished.standIn_before met chain unbypassed
  by_cases bypass : d.IsBypass y
  · obtain ⟨member, _⟩ := finished.onRing_of_standIn unclashed drawn before stands bypass
    have along := finished.standIn_along member steady after
    rw [standIn_of_notMem unbypassed] at along
    exact stands.trans along.symm
  · rcases ReflTransGen.cases_head after with rfl | ⟨z, step, _⟩
    · exact stands
    · exact (bypass step.isBypass).elim

include finished apart in
theorem contraction_of_standIn
    (contracts : ∀ x, d.Drawn first reached x → ∀ m, d.ContractsTo reached w.workflow x m ↔ m = c x)
    (stands : ∀ x, d.Drawn first reached x → w.standIn x.id = (c x).id) :
    d.Contraction first reached w.workflow c := by
  have own_step : ∀ e ∈ reached, ¬ d.IsBypass e →
      w.workflow.step? e.id = some (w.settle (d.stepOf e)) := fun e member own =>
    finished.step? apart member (finished.notMem_gateways (finished.meets member) own)
  constructor
  case contracts => exact contracts
  case entry => exact (finished.entryPoint apart).trans (stands first (.inl rfl))
  case tasks =>
    intro e member task f rest lives
    have own : ¬ d.IsBypass e := Diagram.not_isBypass_of_isTask task
    have inner : e.kind ≠ .endEvent := fun ended => by
      rw [ElementKind.isTask_eq_false_iff.mpr (.inr ended)] at task
      cases task
    have step : d.LeadsTo e f.target := by
      rw [Diagram.LeadsTo, Diagram.successors_of_task task lives]
      exact List.mem_singleton_self _
    rw [own_step e member own, Diagram.stepOf_of_task task lives, ← stands f.target (.inr ⟨e, member, own, inner, step⟩)]
    rfl
  case idleTasks =>
    intro e member task lives
    have known : syntheticEndId e.id ∉ w.gateways :=
      finished.notMem_gateways_of_mem_keys apart (finished.traced.ends e member ⟨task, lives⟩)
    have same : w.standIn (syntheticEndId e.id) = "endEvent-" ++ e.id := standIn_of_notMem known
    rw [own_step e member (Diagram.not_isBypass_of_isTask task), Diagram.stepOf_of_idle ⟨task, lives⟩, ← same]
    rfl
  case conditions =>
    intro e member gateway many
    have own : ¬ d.IsBypass e := fun bypass => by
      have one := bypass.2
      omega
    have inner : e.kind ≠ .endEvent := fun ended => by simp [ended] at gateway
    rw [own_step e member own, Diagram.stepOf_of_choice gateway many, settle, Step.mapTransitions, List.map_map]
    refine congrArg (fun branches => some (Step.condition _ _ branches)) (List.map_congr_left fun f live => ?_)
    have step : d.LeadsTo e f.target := by
      rw [Diagram.LeadsTo, Diagram.successors_of_not_isTask (by rw [gateway]; rfl)]
      exact List.mem_map_of_mem live
    rw [← stands f.target (.inr ⟨e, member, own, inner, step⟩)]
    rfl
  case ends =>
    intro e member ended
    have own : ¬ d.IsBypass e := by
      rintro ⟨gateway, one⟩
      rcases ended with ended | ⟨_, none⟩
      · simp [ended] at gateway
      · simp [none] at one
    have step : d.stepOf e = e.endStep := by
      rcases ended with ended | ⟨gateway, none⟩
      · exact Diagram.stepOf_of_end ended
      · exact Diagram.stepOf_of_few gateway (by simp [none])
    rw [own_step e member own, step]
    rfl

include finished apart in
theorem exists_contraction (unclashed : d.Unclashed first reached) :
    ∃ c, d.Contraction first reached w.workflow c := by
  have choice : ∀ x, ∃ m, d.Meets first x → ReflTransGen d.PassesTo x m ∧ m.id = w.standIn x.id := by
    intro x
    by_cases met : d.Meets first x
    · obtain ⟨m, found⟩ := finished.traced.exists_standIn finished.unambiguous met
      exact ⟨m, fun _ => found⟩
    · exact ⟨x, fun met' => (met met').elim⟩
  -- only identifiers are redirected, so the element behind each of them has to be chosen
  obtain ⟨c, chosen⟩ := Classical.skolem.mp choice
  refine ⟨c, finished.contraction_of_standIn apart ?_ ?_⟩
  · intro x drawn m
    have met := (finished.meets_drawn drawn).1
    obtain ⟨chain, same⟩ := chosen x met
    constructor
    · intro contracts
      have stands := finished.standIn_of_contractsTo apart unclashed drawn contracts
      exact (met.along contracts.1).eq_of_id_eq finished.unambiguous (met.along chain) (stands.symm.trans same.symm)
    · rintro rfl
      exact finished.contractsTo_of_standIn apart unclashed drawn chain same.symm
  · intro x drawn
    exact (chosen x (finished.meets_drawn drawn).1).2.symm

end Unclashed

/-! ### From the contraction to the walk -/

theorem standIn_of_contraction (finished : Finished d first reached w) (apart : Apart d reached)
    (contraction : d.Contraction first reached w.workflow c) (drawn : d.Drawn first reached x) :
    w.standIn x.id = (c x).id := by
  rcases drawn with rfl | ⟨e, member, own, inner, step⟩
  · exact (finished.entryPoint apart).symm.trans contraction.entry
  have found := finished.step? apart member (finished.notMem_gateways (finished.meets member) own)
  obtain ⟨f, followed, rfl⟩ := List.mem_map.mp step
  rcases kind : e.kind.isTask with _ | _
  · have gateway : e.kind = .exclusiveGateway := (ElementKind.isTask_eq_false_iff.mp kind).resolve_right inner
    rw [Diagram.followed, if_neg (Bool.eq_false_iff.mp kind)] at followed
    have many : 2 ≤ (d.live e).length := by
      have positive : 0 < (d.live e).length := List.length_pos_of_mem followed
      have other : (d.live e).length ≠ 1 := fun one => own ⟨gateway, one⟩
      omega
    rw [contraction.conditions e member gateway many, Diagram.stepOf_of_choice gateway many, settle,
      Step.mapTransitions, List.map_map] at found
    have same := List.map_inj_left.mp (Step.condition.inj (Option.some.inj found)).2.2 f followed
    exact (Transition.mk.inj same).1.symm
  · rw [Diagram.followed, if_pos kind] at followed
    rcases lives : d.live e with _ | ⟨first, rest⟩
    · simp [lives] at followed
    · rw [lives, List.take_succ_cons, List.take_zero, List.mem_singleton] at followed
      subst followed
      rw [contraction.tasks e member kind _ rest lives, Diagram.stepOf_of_task kind lives] at found
      exact (Transition.mk.inj (Step.task.inj (Option.some.inj found)).2.2.2).1.symm

theorem unclashed_of_contraction (finished : Finished d first reached w) (apart : Apart d reached)
    (contraction : d.Contraction first reached w.workflow c) : d.Unclashed first reached := by
  intro x drawn z chain bypass t present idle clash
  have met := (finished.meets_drawn drawn).1
  have unreached : z ∉ reached := fun member => apart z member t present idle clash
  have unbypassed : z.id ∉ w.gateways := fun known =>
    unreached (finished.mem_reached_of_gateway (met.along chain) known).1
  obtain ⟨y, before, after, steady, stands⟩ := finished.standIn_before met chain unbypassed
  obtain ⟨target, last⟩ := (contraction.contracts x drawn (c x)).mpr rfl
  rw [finished.standIn_of_contraction apart contraction drawn] at stands
  obtain rfl := (met.along target).eq_of_id_eq finished.unambiguous (met.along before) stands
  -- `c x` comes before `z` on the chain, and only a ring goes on beyond what a chain contracts to
  rcases last with own | ⟨_, member, _⟩
  · rcases ReflTransGen.cases_head after with same | ⟨_, step, _⟩
    · exact own (same ▸ bypass)
    · exact own step.isBypass
  · have along := finished.standIn_along member steady after
    rw [standIn_of_notMem unbypassed] at along
    exact unreached (finished.eq_of_id_eq member (met.along chain) along.symm ▸ member)

/-- A walk contracts the gateways unless one of them has the identifier of an end that it adds. -/
theorem contraction_iff (finished : Finished d first reached w) (apart : Apart d reached) :
    (∃ c, d.Contraction first reached w.workflow c) ↔ d.Unclashed first reached := by
  constructor
  · rintro ⟨c, contraction⟩
    exact finished.unclashed_of_contraction apart contraction
  · exact finished.exists_contraction apart

end Finished

end Walk

namespace Diagram

section Compile

variable {d : Diagram} {options : CompileOptions} {w : Workflow} {entry : Entry} {diagnostics : Diagnostics}

theorem finished_of_compile (resolved : Entry.resolve d = (some entry, diagnostics))
    (compiled : (d.compile options).result = .ok w) :
    ∃ walk, Walk.Finished d entry.first (d.expanded options.name entry diagnostics) walk ∧ walk.workflow = w := by
  obtain ⟨entry', diagnostics', resolved', rfl⟩ := walk_of_compile compiled
  rw [resolved, Prod.mk.injEq, Option.some.injEq] at resolved'
  obtain ⟨rfl, rfl⟩ := resolved'
  exact ⟨_, finished_walk resolved options.name, rfl⟩

/--
When the expanded elements keep clear of the ends that are added, compiling contracts the gateways
just in case the gateways that should be left out keep clear of these ends too.
-/
theorem contraction_compile_iff (resolved : Entry.resolve d = (some entry, diagnostics))
    (compiled : (d.compile options).result = .ok w)
    (apart : Walk.Apart d (d.expanded options.name entry diagnostics)) :
    (∃ c, d.Contraction entry.first (d.expanded options.name entry diagnostics) w c) ↔
      d.Unclashed entry.first (d.expanded options.name entry diagnostics) := by
  obtain ⟨walk, finished, rfl⟩ := finished_of_compile resolved compiled
  exact finished.contraction_iff apart

/-! ### A gateway with the identifier of an added end -/

def takenGateway : Element := ⟨"endEvent-T", none, .exclusiveGateway, none⟩

/-- `T` leads nowhere, and what is added after it has the identifier of the gateway after `A`. -/
def takenEnd : Diagram := .ofParts [
  .element ⟨"S", none, .startEvent, none⟩, .element ⟨"C", none, .exclusiveGateway, none⟩,
  .element ⟨"T", none, .task, none⟩, .element ⟨"A", none, .task, none⟩,
  .element takenGateway, .element ⟨"X", none, .endEvent, none⟩,
  .flow ⟨none, none, "S", "C"⟩, .flow ⟨none, none, "C", "T"⟩, .flow ⟨none, none, "C", "A"⟩,
  .flow ⟨none, none, "C", "X"⟩, .flow ⟨none, none, "A", "endEvent-T"⟩, .flow ⟨none, none, "endEvent-T", "X"⟩]

def takenEndWorkflow : Workflow where
  name := "taken"
  entryPoint := "C"
  steps := OrderedMap.empty
    |>.insert "C" (.condition "" "" [⟨"T", "", none⟩, ⟨"A", "", none⟩, ⟨"X", "", none⟩])
    |>.insert "endEvent-T" (.terminal "End of workflow")
    |>.insert "T" (.task "" "" .guideline ⟨"endEvent-T", "End the workflow", none⟩)
    |>.insert "A" (.task "" "" .guideline ⟨"endEvent-T", "Continue", none⟩)
    |>.insert "X" (.terminal "")

def takenEntry : Entry := ⟨⟨"S", none, .startEvent, none⟩, ⟨"C", none, .exclusiveGateway, none⟩⟩

def takenReached : List Element :=
  [takenEntry.first, ⟨"T", none, .task, none⟩, ⟨"A", none, .task, none⟩, ⟨"X", none, .endEvent, none⟩]

theorem expanded_takenEnd :
    takenEnd.expanded "taken" takenEntry ⟨[.entryResolved "S" "C"], 0, none⟩ = takenReached := by cbv

theorem apart_takenReached : Walk.Apart takenEnd takenReached := by
  have clear : takenReached.all (fun e => takenReached.all fun t => e.id != syntheticEndId t.id) = true := by cbv
  intro e member t member' _
  exact bne_iff_ne.mp (List.all_eq_true.mp (List.all_eq_true.mp clear e member) t member')

theorem not_unclashed_takenReached : ¬ takenEnd.Unclashed takenEntry.first takenReached := by
  intro unclashed
  have after : takenEnd.successors ⟨"A", none, .task, none⟩ = [takenGateway] := by cbv
  have drawn : takenEnd.Drawn takenEntry.first takenReached takenGateway := by
    refine .inr ⟨⟨"A", none, .task, none⟩, by simp [takenReached], by simp [IsBypass], by simp, ?_⟩
    rw [LeadsTo, after]
    exact List.mem_singleton_self _
  have bypass : takenEnd.IsBypass takenGateway := ⟨rfl, by cbv⟩
  have idle : takenEnd.IsIdleTask ⟨"T", none, .task, none⟩ := ⟨rfl, by cbv⟩
  exact unclashed takenGateway drawn takenGateway .refl bypass _ (by simp [takenReached]) idle rfl

theorem takenEnd_not_contracted : (takenEnd.compile (.named "taken")).result = .ok takenEndWorkflow ∧
    Walk.Apart takenEnd (takenEnd.expanded "taken" takenEntry ⟨[.entryResolved "S" "C"], 0, none⟩) ∧
    ¬ ∃ c, takenEnd.Contraction takenEntry.first
      (takenEnd.expanded "taken" takenEntry ⟨[.entryResolved "S" "C"], 0, none⟩) takenEndWorkflow c := by
  have resolved : Entry.resolve takenEnd = (some takenEntry, ⟨[.entryResolved "S" "C"], 0, none⟩) := by cbv
  have compiled : (takenEnd.compile (.named "taken")).result = .ok takenEndWorkflow := by cbv
  have apart : Walk.Apart takenEnd (takenEnd.expanded "taken" takenEntry ⟨[.entryResolved "S" "C"], 0, none⟩) := by
    rw [expanded_takenEnd]
    exact apart_takenReached
  refine ⟨compiled, apart, fun contracted => ?_⟩
  have unclashed := (contraction_compile_iff resolved compiled apart).mp contracted
  refine not_unclashed_takenReached ?_
  rw [← expanded_takenEnd]
  exact unclashed

end Compile

end Diagram

end BpmnWorkflow
