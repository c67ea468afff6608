import BpmnWorkflow.Proofs.Compilation.Tally
import BpmnWorkflow.Proofs.Walk.Closure
import BpmnWorkflow.Proofs.Walk.Termination
import BpmnWorkflow.Proofs.Walk.Trace

/-!
# What a walk warns about

`anomalies` lists what there is to say about an element, given the elements expanded before it, and
reads nothing but the diagram. `warnings_of_course` says that a walk reports just that, element by element;
`compile_warnings` that strict compilation accepts a diagram just in case nothing is reported about it.
-/

namespace BpmnWorkflow

open Relation (ReflTransGen TransGen)

namespace LiveFlow

def unlessOne (idle crowded : Warning) : List LiveFlow → List Warning
  | [] => [idle]
  | [_] => []
  | _ :: _ :: _ => [crowded]

def unlessMany (gateway : String) (closes : Prop) [Decidable closes] : List LiveFlow → List Warning
  | [] => [.idleGateway gateway]
  | [_] => .bypassedGateway gateway :: if closes then [.gatewayRing gateway] else []
  | _ :: _ :: _ => []

theorem unlessOne_eq_nil_iff {idle crowded : Warning} {live : List LiveFlow} :
    unlessOne idle crowded live = [] ↔ live.length = 1 := by
  rcases live with _ | ⟨_, _ | _⟩ <;> simp [unlessOne]

theorem unlessMany_eq_nil_iff {gateway : String} {closes : Prop} [Decidable closes] {live : List LiveFlow} :
    unlessMany gateway closes live = [] ↔ 2 ≤ live.length := by
  rcases live with _ | ⟨_, _ | _⟩ <;> simp [unlessMany]

end LiveFlow

namespace Diagram

/-- Every other gateway on the ring of `e` comes before `e`. -/
def ClosesRing (d : Diagram) (before : List Element) (e : Element) : Prop :=
  d.OnRing e ∧ ∀ x, ReflTransGen d.PassesTo e x → x = e ∨ x ∈ before

open Classical in
/-- The warnings about `e` when it is expanded after `before`: its dead flows, then the number of its live ones. -/
noncomputable def anomalies (d : Diagram) (before : List Element) (e : Element) : List Warning :=
  (d.deadFlows e.id ElementKind.isFlowTarget).map .unresolvedFlow ++
    match e.kind with
    | .endEvent => []
    | .exclusiveGateway => LiveFlow.unlessMany e.id (d.ClosesRing before e) (d.live e)
    | .startEvent | .task | .userTask | .serviceTask => LiveFlow.unlessOne (.idleTask e.id) (.crowdedTask e.id) (d.live e)

/-- The warnings about elements that are expanded one after another, after `before`. -/
noncomputable def report (d : Diagram) : List Element → List Element → List Warning
  | _, [] => []
  | before, e :: rest => d.anomalies before e ++ d.report (before ++ [e]) rest

structure IsClean (d : Diagram) (e : Element) : Prop where
  resolves : ∀ f ∈ d.outgoing e.id, ∃ x, d.resolve f.target ElementKind.isFlowTarget = .ok x
  task : e.kind.isTask = true → (d.live e).length = 1
  gateway : e.kind = .exclusiveGateway → 2 ≤ (d.live e).length

section Report

variable {d : Diagram} {before expanded : List Element} {e : Element}

theorem report_concat (d : Diagram) (before expanded : List Element) (e : Element) :
    d.report before (expanded ++ [e]) = d.report before expanded ++ d.anomalies (before ++ expanded) e := by
  induction expanded generalizing before with
  | nil => simp [report]
  | cons x rest ih => simp [report, ih]

theorem anomalies_eq_nil_iff : d.anomalies before e = [] ↔ d.IsClean e := by
  have clean : d.IsClean e ↔ (∀ f ∈ d.outgoing e.id, ∃ x, d.resolve f.target ElementKind.isFlowTarget = .ok x) ∧
      (e.kind.isTask = true → (d.live e).length = 1) ∧ (e.kind = .exclusiveGateway → 2 ≤ (d.live e).length) :=
    ⟨fun h => ⟨h.1, h.2, h.3⟩, fun h => ⟨h.1, h.2.1, h.2.2⟩⟩
  rw [clean, anomalies, List.append_eq_nil_iff, List.map_eq_nil_iff, deadFlows_eq_nil_iff]
  refine and_congr_right fun _ => ?_
  cases e.kind <;> simp [LiveFlow.unlessOne_eq_nil_iff, LiveFlow.unlessMany_eq_nil_iff, ElementKind.isTask]

theorem report_eq_nil_iff : d.report before expanded = [] ↔ ∀ e ∈ expanded, d.IsClean e := by
  induction expanded generalizing before with
  | nil => simp [report]
  | cons e rest ih => rw [report, List.append_eq_nil_iff, anomalies_eq_nil_iff, ih, List.forall_mem_cons]

end Report

end Diagram

namespace Walk

def warnings (w : Walk) : List Warning := w.diagnostics.warnings

section Warnings

variable {d : Diagram} {w : Walk} {e : Element}

@[simp] theorem warnings_note (w : Walk) (n : Notice) : (w.note n).warnings = w.warnings ++ n.warning?.toList :=
  Diagnostics.warnings_note _ _

@[simp] theorem warnings_warn (w : Walk) (warning : Warning) : (w.warn warning).warnings = w.warnings ++ [warning] :=
  Diagnostics.warnings_warn _ _

@[simp] theorem warnings_warnAll (w : Walk) (all : List Warning) : (w.warnAll all).warnings = w.warnings ++ all :=
  Diagnostics.warnings_warnAll _ _

@[simp] theorem warnings_register (w : Walk) (id : String) (step : Step) :
    (w.register id step).warnings = w.warnings := by
  unfold register
  split
  · rw [warnings_note]
    exact List.append_nil _
  · rfl

@[simp] theorem warnings_redirect (w : Walk) (source target : String) :
    (w.redirect source target).warnings = w.warnings := by
  rw [redirect_eq, warnings_note]
  exact List.append_nil _

@[simp] theorem warnings_bypass (w : Walk) {gateway target replacement : String}
    (found : w.finalReplacement? gateway target = some replacement) : (w.bypass found).warnings = w.warnings :=
  warnings_redirect _ _ _

theorem warnings_addTask (w : Walk) (e : Element) (live : List LiveFlow) :
    (w.addTask e live).1.warnings = w.warnings ++ LiveFlow.unlessOne (.idleTask e.id) (.crowdedTask e.id) live := by
  rcases live with _ | ⟨_, _ | _⟩ <;> simp [addTask, LiveFlow.unlessOne]

theorem warnings_skipGateway (w : Walk) (gateway successor : Element) : (w.skipGateway gateway successor).1.warnings =
    w.warnings ++ .bypassedGateway gateway.id ::
      if w.finalReplacement? gateway.id successor.id = none then [.gatewayRing gateway.id] else [] := by
  have search : (w.warn (.bypassedGateway gateway.id)).finalReplacement? gateway.id successor.id =
      w.finalReplacement? gateway.id successor.id := rfl
  cases found : w.finalReplacement? gateway.id successor.id with
  | none => simp [skipGateway_of_none (search.trans found)]
  | some replacement => simp [skipGateway_of_some (search.trans found)]

theorem warnings_addGateway (w : Walk) (e : Element) (closes : Prop) [Decidable closes] (live : List LiveFlow)
    (search : ∀ f, live = [f] → (w.finalReplacement? e.id f.target.id = none ↔ closes)) :
    (w.addGateway e live).1.warnings = w.warnings ++ LiveFlow.unlessMany e.id closes live := by
  rcases live with _ | ⟨f, _ | ⟨g, rest⟩⟩
  · simp [addGateway, LiveFlow.unlessMany]
  · have same := search f rfl
    simp only [addGateway, warnings_skipGateway, LiveFlow.unlessMany, same]
  · simp [addGateway, LiveFlow.unlessMany]

open Classical in
theorem warnings_expand (before : List Element)
    (search : ∀ x, d.PassesTo e x → (w.finalReplacement? e.id x.id = none ↔ d.ClosesRing before e)) :
    (w.expand d e).1.warnings = w.warnings ++ d.anomalies before e := by
  rw [expand, Diagram.anomalies]
  cases kind : e.kind with
  | endEvent => simp [Notice.warning?]
  | exclusiveGateway =>
    have added := warnings_addGateway ((w.note (.visiting e.id .exclusiveGateway)).warnAll
      ((d.deadFlows e.id ElementKind.isFlowTarget).map .unresolvedFlow)) e (d.ClosesRing before e) (d.live e)
      fun f lives => search f.target ⟨kind, f, lives, rfl⟩
    refine added.trans ?_
    simp [Notice.warning?]
  | _ => simp [warnings_addTask, Notice.warning?, Diagram.live]

theorem warnings_visit_of_settled (settled : w.isSettled e.id = true) : (w.visit d e).1.warnings = w.warnings := by
  unfold visit
  split
  · rfl
  · rename_i unregistered
    cases found : w.replacement? e.id with
    | some replacement => exact warnings_redirect _ _ _
    | none =>
      rw [not_isSettled_of_none (Bool.eq_false_iff.mpr unregistered) found] at settled
      cases settled

end Warnings

/-! ### Rings -/

section Rings

variable {d : Diagram} {first e x : Element} {w : Walk} {before pending : List Element}

theorem Traced.mem_of_gateway (traced : Traced d first before w pending) (unambiguous : d.Unambiguous first)
    (met : d.Meets first x) (known : x.id ∈ w.gateways) : x ∈ before := by
  obtain ⟨b, member, same⟩ := List.mem_map.mp known
  obtain ⟨g, present, _, source, _⟩ := traced.bypasses b member
  obtain rfl := (traced.meets present).eq_of_id_eq unambiguous met (source.trans same)
  exact present

/-- On a ring whose other gateways are all expanded, the one that is not stands in for them. -/
theorem Traced.standIn_of_closesRing (traced : Traced d first before w pending) (fresh : e.id ∉ w.gateways)
    (onward : ReflTransGen d.PassesTo e x) (back : ReflTransGen d.PassesTo x e)
    (others : ∀ y, ReflTransGen d.PassesTo e y → y = e ∨ y ∈ before) : w.standIn x.id = e.id := by
  induction back using ReflTransGen.head_induction_on with
  | refl => exact standIn_of_notMem fresh
  | @head y z step _ ih =>
    rcases others y onward with rfl | member
    · exact standIn_of_notMem fresh
    · rw [← traced.passes y member z step]
      exact ih (onward.tail step)

/-- Where the chain of replacements comes back, all on the ring but the gateway itself is expanded. -/
theorem Traced.ring_of_standIn (traced : Traced d first before w pending) (unambiguous : d.Unambiguous first)
    (met : d.Meets first e) (fresh : e.id ∉ w.gateways) (passes : d.PassesTo e x) (back : w.standIn x.id = e.id)
    {y : Element} (onward : ReflTransGen d.PassesTo e y) : (y = e ∨ y ∈ before) ∧ w.standIn y.id = e.id := by
  induction onward with
  | refl => exact ⟨.inl rfl, standIn_of_notMem fresh⟩
  | @tail a b _ step ih =>
    have stands : w.standIn b.id = e.id := by
      rcases ih.1 with rfl | member
      · exact passes.unique step ▸ back
      · exact (traced.passes a member b step).trans ih.2
    have met' : d.Meets first b := step.leadsTo.meets first
    refine ⟨?_, stands⟩
    -- what is no bypassed gateway stands in for itself, so that here it is `e`
    by_cases known : b.id ∈ w.gateways
    · exact .inr (traced.mem_of_gateway unambiguous met' known)
    · rw [standIn_of_notMem known] at stands
      exact .inl (met'.eq_of_id_eq unambiguous met stands)

theorem Traced.standIn_eq_iff (traced : Traced d first before w pending) (unambiguous : d.Unambiguous first)
    (met : d.Meets first e) (fresh : e.id ∉ w.gateways) (passes : d.PassesTo e x) :
    w.standIn x.id = e.id ↔ d.ClosesRing before e := by
  constructor
  · intro back
    obtain ⟨z, chain, same⟩ := traced.exists_standIn unambiguous (passes.leadsTo.meets first)
    obtain rfl := ((passes.leadsTo.meets first).along chain).eq_of_id_eq unambiguous met (same.trans back)
    refine ⟨TransGen.head' passes chain, fun y onward => ?_⟩
    exact (traced.ring_of_standIn unambiguous met fresh passes back onward).1
  · rintro ⟨ring, others⟩
    exact traced.standIn_of_closesRing fresh (.single passes) (ring.onward passes).2 others

theorem warnings_visit (ordered : Ordered w.bypassed) (traced : Traced d first before w (e :: pending))
    (unambiguous : d.Unambiguous first) :
    (w.visit d e).1.warnings = w.warnings ++ (w.expands e).flatMap (d.anomalies before) := by
  cases settled : w.isSettled e.id with
  | true => rw [warnings_visit_of_settled settled, expands_eq, if_pos settled, List.flatMap_nil, List.append_nil]
  | false =>
    have unbypassed := (isSettled_eq_false_iff.mp settled).2
    have met : d.Meets first e := Diagram.meets_of_reaches (traced.reached e (by simp))
    rw [visit_of_fresh settled, expands_eq, settled, if_neg Bool.false_ne_true, List.flatMap_singleton]
    refine warnings_expand before fun x passes => ?_
    rw [← traced.standIn_eq_iff unambiguous met unbypassed passes, finalReplacement?_of_notMem ordered unbypassed]
    exact ite_eq_left_iff.trans (by simp [standIn])

end Rings

/-- A walk reports what there is to say about each element that it expands, once and in that order. -/
theorem warnings_of_course {d : Diagram} {first : Element} {name : String} {diagnostics : Diagnostics}
    {expanded pending : List Element} {w : Walk} (unambiguous : d.Unambiguous first)
    (course : Course d (start name first diagnostics) [first] expanded w pending) :
    w.warnings = diagnostics.warnings ++ d.report [] expanded := by
  induction course with
  | start => simp [Walk.warnings, Walk.start, Diagram.report]
  | @visit expanded w e pending course ih =>
    have traced : Traced d first expanded w (e :: pending) :=
      course.preserves (P := Traced d first) ordered_nil (traced_start d name first diagnostics) (traced_step unambiguous)
    rw [warnings_visit (course.ordered ordered_nil) traced unambiguous, ih, List.append_assoc, expands_eq]
    split
    · simp
    · simp [Diagram.report_concat]

end Walk

/-! ### The entry -/

namespace Entry

variable {d : Diagram} {entry : Entry} {start : Element} {s : Diagnostics}

theorem fst_ofStart (d : Diagram) (start : Element) (s : Diagnostics) :
    (ofStart d start s).1 = (d.liveFlows start.id ElementKind.isTaskLike).head?.map fun f => ⟨start, f.target⟩ := by
  rw [ofStart]
  rcases d.liveFlows start.id ElementKind.isTaskLike with _ | ⟨f, _ | ⟨g, rest⟩⟩ <;> rfl

theorem warnings_ofStart (d : Diagram) (start : Element) (s : Diagnostics) : (ofStart d start s).2.warnings =
    s.warnings ++ ((d.deadFlows start.id ElementKind.isTaskLike).map .unresolvedFlow ++
      LiveFlow.unlessOne (.idleStart start.id) (.crowdedStart start.id)
        (d.liveFlows start.id ElementKind.isTaskLike)) := by
  rw [ofStart, ← List.append_assoc]
  rcases d.liveFlows start.id ElementKind.isTaskLike with _ | ⟨f, _ | ⟨g, rest⟩⟩
  · simp only [Diagnostics.warnings_warn, Diagnostics.warnings_warnAll, LiveFlow.unlessOne]
  · simp only [Diagnostics.warnings_note, Diagnostics.warnings_warnAll, LiveFlow.unlessOne]
    rfl
  · simp only [Diagnostics.warnings_note, Diagnostics.warnings_warn, Diagnostics.warnings_warnAll, LiveFlow.unlessOne]
    exact List.append_nil _

theorem exists_warnings_choose (d : Diagram) (starts : List Element) (s : Diagnostics) :
    ∃ more, (choose d starts s).2.warnings = s.warnings ++ more := by
  induction starts generalizing s with
  | nil => exact ⟨[], (List.append_nil _).symm⟩
  | cons start rest ih =>
    have own := warnings_ofStart d start s
    rw [choose]
    generalize ofStart d start s = offer at own ⊢
    obtain ⟨_ | found, offered⟩ := offer
    · obtain ⟨more, same⟩ := ih offered
      rw [same, own, List.append_assoc]
      exact ⟨_, rfl⟩
    · rw [Diagnostics.warnings_warnAll, own, List.append_assoc]
      exact ⟨_, rfl⟩

theorem ofStart_quiet_iff : ((ofStart d start {}).1 = some entry ∧ (ofStart d start {}).2.warnings = []) ↔
    start = entry.start ∧ ∃ flow, d.outgoing start.id = [flow] ∧
      d.resolve flow.target ElementKind.isTaskLike = .ok entry.first := by
  obtain ⟨own, first⟩ := entry
  have silent : ({} : Diagnostics).warnings = [] := rfl
  rw [← Diagram.single_flow_iff, fst_ofStart, warnings_ofStart, silent, List.nil_append, List.append_eq_nil_iff,
    List.map_eq_nil_iff]
  rcases d.liveFlows start.id ElementKind.isTaskLike with _ | ⟨f, _ | ⟨g, rest⟩⟩
  · simp
  · simp only [List.head?_cons, Option.map_some, Option.some.injEq, Entry.mk.injEq, LiveFlow.unlessOne, and_true,
      List.cons.injEq, exists_eq_left']
    exact and_assoc.trans (and_congr_right fun _ => and_comm)
  · simp [LiveFlow.unlessOne]

theorem warnings_ofStart_ne_nil (idle : (ofStart d start s).1 = none) : (ofStart d start s).2.warnings ≠ [] := by
  rw [fst_ofStart, Option.map_eq_none_iff, List.head?_eq_none_iff] at idle
  rw [warnings_ofStart, idle, LiveFlow.unlessOne]
  exact List.append_ne_nil_of_right_ne_nil _ (List.append_ne_nil_of_right_ne_nil _ (List.cons_ne_nil _ _))

theorem choose_quiet_iff {starts : List Element} :
    ((choose d starts {}).1 = some entry ∧ (choose d starts {}).2.warnings = []) ↔
      starts = [entry.start] ∧ ∃ flow, d.outgoing entry.start.id = [flow] ∧
        d.resolve flow.target ElementKind.isTaskLike = .ok entry.first := by
  rcases starts with _ | ⟨start, rest⟩
  · simp [choose]
  have quiet := @ofStart_quiet_iff d entry start
  rw [choose, List.cons.injEq]
  rcases offered : ofStart d start {} with ⟨_ | found, s⟩
  · have reported : (ofStart d start {}).2.warnings ≠ [] := warnings_ofStart_ne_nil (by rw [offered])
    rw [offered] at reported
    constructor
    · rintro ⟨_, silent⟩
      obtain ⟨more, same⟩ := exists_warnings_choose d rest s
      rw [same, List.append_eq_nil_iff] at silent
      exact (reported silent.1).elim
    · rintro ⟨⟨rfl, _⟩, only⟩
      have chosen := (quiet.mpr ⟨rfl, only⟩).1
      rw [offered] at chosen
      cases chosen
  · rw [offered] at quiet
    rw [Diagnostics.warnings_warnAll, List.append_eq_nil_iff, List.map_eq_nil_iff, ← and_assoc, quiet]
    constructor
    · rintro ⟨⟨rfl, only⟩, none⟩
      exact ⟨⟨rfl, none⟩, only⟩
    · rintro ⟨⟨rfl, none⟩, only⟩
      exact ⟨⟨rfl, only⟩, none⟩

end Entry

namespace Diagram

variable {d : Diagram} {entry : Entry} {diagnostics : Diagnostics}

theorem warnings_walk (resolved : Entry.resolve d = (some entry, diagnostics)) (name : String) :
    (d.walk name entry diagnostics).warnings =
      diagnostics.warnings ++ d.report [] (d.expanded name entry diagnostics) :=
  Walk.warnings_of_course (Entry.resolved_entry_unambiguous (by rw [resolved])) (Walk.course_run d _ _)

theorem warnings_compile (resolved : Entry.resolve d = (some entry, diagnostics)) (options : CompileOptions) :
    (d.compile options).warnings =
      diagnostics.warnings ++ d.report [] (d.expanded options.name entry diagnostics) := by
  rw [← warnings_walk resolved, compile, resolved]
  simp only [validate_walk, ite_self]
  exact (Walk.warnings_note _ _).trans (List.append_nil _)

/--
After the entry is resolved, a compilation warns about what it expands, each element once and in that
order. So strict compilation accepts a diagram just in case its one start event has one flow, to a task
or a gateway, and everything expanded is clean.
-/
theorem compile_warnings (d : Diagram) (options : CompileOptions) :
    (∀ entry diagnostics, Entry.resolve d = (some entry, diagnostics) →
      (d.compile options).warnings =
        diagnostics.warnings ++ d.report [] (d.expanded options.name entry diagnostics) ∧
      ((d.expanded options.name entry diagnostics).map Element.id).Nodup) ∧
    ((∃ w, (d.compile { options with strict := true }).result = .ok w) ↔
      ∃ start flow first, d.startEvents = [start] ∧ d.outgoing start.id = [flow] ∧
        d.resolve flow.target ElementKind.isTaskLike = .ok first ∧
        ∀ e ∈ d.expanded options.name ⟨start, first⟩ (Entry.resolve d).2, d.IsClean e) := by
  constructor
  · intro entry diagnostics resolved
    exact ⟨warnings_compile resolved options,
      (Walk.expanded_settled_nodup Walk.ordered_nil (Walk.course_run d _ _)).1⟩
  · -- Nothing is reported up to the entry just in case one start event with one flow offers it.
    have quiet (entry : Entry) :
        ((Entry.resolve d).1 = some entry ∧ (Entry.resolve d).2.warnings = []) ↔ _ := Entry.choose_quiet_iff
    rcases resolved : Entry.resolve d with ⟨_ | entry, diagnostics⟩
    · have refused : ¬ ∃ w, (d.compile { options with strict := true }).result = .ok w := by simp [compile, resolved]
      refine iff_of_false refused ?_
      rintro ⟨start, flow, first, only, alone, named, _⟩
      have chosen := ((quiet ⟨start, first⟩).mpr ⟨only, flow, alone, named⟩).1
      rw [resolved] at chosen
      cases chosen
    · rw [resolved] at quiet
      have entered : (Entry.resolve d).1 ≠ none := by
        rw [resolved]
        exact Option.some_ne_none entry
      rw [result_strict options entered, warnings_compile resolved, List.append_eq_nil_iff, report_eq_nil_iff]
      constructor
      · rintro ⟨silent, clean⟩
        obtain ⟨only, flow, alone, named⟩ := (quiet entry).mp ⟨rfl, silent⟩
        exact ⟨entry.start, flow, entry.first, only, alone, named, clean⟩
      · rintro ⟨start, flow, first, only, alone, named, clean⟩
        obtain ⟨same, silent⟩ := (quiet ⟨start, first⟩).mpr ⟨only, flow, alone, named⟩
        obtain rfl := Option.some.inj same
        exact ⟨silent, clean⟩

def forkedRingEntry : Entry := ⟨⟨"S", none, .startEvent, none⟩, ⟨"A", none, .task, none⟩⟩

/-- The second gateway of the ring closes it, and is reported for that as well. -/
theorem forkedRing_report :
    Entry.resolve forkedRing = (some forkedRingEntry, ⟨[.entryResolved "S" "A"], 0, none⟩) ∧
      forkedRing.report [] (forkedRing.expanded "ring" forkedRingEntry ⟨[.entryResolved "S" "A"], 0, none⟩) =
        [.idleTask "U", .bypassedGateway "G1", .bypassedGateway "G2", .gatewayRing "G2"] := by
  have resolved : Entry.resolve forkedRing = (some forkedRingEntry, ⟨[.entryResolved "S" "A"], 0, none⟩) := by cbv
  have reported := ((compile_warnings forkedRing (.named "ring")).1 _ _ resolved).1
  refine ⟨resolved, reported.symm.trans ?_⟩
  cbv

end Diagram

end BpmnWorkflow
