import BpmnWorkflow.Proofs.Diagram.Lookup
import BpmnWorkflow.Proofs.Diagram.Parts
import BpmnWorkflow.Proofs.Walk.Closure
import BpmnWorkflow.Proofs.Walk.Trace

/-!
# What a compilation reads

A compilation reads the flows that leave a start event or an expanded element, and of the elements
only those that such a flow names. Two diagrams that agree there are read in lockstep, so `compile_local`
finds nothing else of a diagram in the outcome.
-/

namespace BpmnWorkflow

/-- What is read of a flow once it is found under its source. -/
def Flow.link (f : Flow) : Option String × String := (f.name, f.target)

def LiveFlow.bare (f : LiveFlow) : LiveFlow := ⟨⟨none, f.flow.name, "", f.flow.target⟩, f.target⟩

namespace Diagram

def links (d : Diagram) (id : String) : List (Option String × String) := (d.outgoing id).map Flow.link

def candidates (d : Diagram) (id : String) : List Element :=
  d.elements.filter fun e => e.id == id && e.kind.isFlowTarget

/-- The two diagrams agree on the flows that leave `id`, and on what these name. -/
structure AgreesAt (d d' : Diagram) (id : String) : Prop where
  links : d.links id = d'.links id
  candidates : ∀ f ∈ d.outgoing id, (d.candidates f.target).Perm (d'.candidates f.target)

def consulted (d : Diagram) (options : CompileOptions) : List String :=
  d.startEvents.map Element.id ++
    match Entry.resolve d with
    | (none, _) => []
    | (some entry, diagnostics) => (d.expanded options.name entry diagnostics).map Element.id

section Agreement

variable {d d' : Diagram} {id : String} {accept : ElementKind → Bool} {link : Option String × String}

theorem map_bare_liveFlows (d : Diagram) (id : String) (accept : ElementKind → Bool) :
    (d.liveFlows id accept).map LiveFlow.bare = (d.links id).filterMap fun link =>
      match d.resolve link.2 accept with
      | .ok target => some ⟨⟨none, link.1, "", link.2⟩, target⟩
      | .error _ => none := by
  rw [liveFlows, links, List.map_filterMap, List.filterMap_map]
  refine List.filterMap_congr fun f _ => ?_
  rw [Function.comp_apply, Flow.link]
  cases d.resolve f.target accept <;> rfl

theorem deadFlows_eq_filterMap_links (d : Diagram) (id : String) (accept : ElementKind → Bool) :
    d.deadFlows id accept = (d.links id).filterMap fun link =>
      match d.resolve link.2 accept with
      | .ok _ => none
      | .error failure => some failure := by
  rw [deadFlows, links, List.filterMap_map]
  rfl

variable (below : ∀ k, accept k = true → k.isFlowTarget = true)

include below

theorem filter_lookup_eq (d : Diagram) (id : String) :
    (d.elementTable.lookup id).filter (accept ·.kind) = (d.candidates id).filter (accept ·.kind) := by
  rw [filter_lookup, named, candidates, List.filter_filter]
  refine List.filter_congr fun e _ => ?_
  cases accepted : accept e.kind with
  | false => rw [Bool.and_false, Bool.false_and]
  | true => rw [below _ accepted, Bool.and_true, Bool.true_and]

theorem resolve_congr (same : (d.candidates id).Perm (d'.candidates id)) :
    d.resolve id accept = d'.resolve id accept := by
  have found := same.filter (accept ·.kind)
  rw [resolve, resolve, filter_lookup_eq below, filter_lookup_eq below]
  generalize (d.candidates id).filter (accept ·.kind) = named at found ⊢
  generalize (d'.candidates id).filter (accept ·.kind) = named' at found ⊢
  rcases named with _ | ⟨e, _ | ⟨other, rest⟩⟩
  · rw [← found.nil_eq]
  · rw [← List.singleton_perm.mp found]
  · -- of several candidates only the number is reported, whatever their order
    have lengths := found.length_eq
    rcases named' with _ | ⟨e', _ | ⟨other', rest'⟩⟩
    · cases lengths
    · cases lengths
    · show Except.error (LookupError.duplicateTask id (e :: other :: rest).length) = _
      rw [lengths]
      rfl

theorem AgreesAt.resolve (agree : d.AgreesAt d' id) (member : link ∈ d.links id) :
    d.resolve link.2 accept = d'.resolve link.2 accept := by
  obtain ⟨f, present, rfl⟩ := List.mem_map.mp member
  exact resolve_congr below (agree.candidates f present)

theorem AgreesAt.liveFlows (agree : d.AgreesAt d' id) :
    (d.liveFlows id accept).map LiveFlow.bare = (d'.liveFlows id accept).map LiveFlow.bare := by
  rw [map_bare_liveFlows, map_bare_liveFlows, ← agree.links]
  exact List.filterMap_congr fun link member => by rw [agree.resolve below member]

theorem AgreesAt.targets (agree : d.AgreesAt d' id) :
    (d.liveFlows id accept).map (·.target) = (d'.liveFlows id accept).map (·.target) := by
  have mapped := congrArg (List.map (·.target)) (agree.liveFlows below)
  rwa [List.map_map, List.map_map] at mapped

theorem AgreesAt.deadFlows (agree : d.AgreesAt d' id) : d.deadFlows id accept = d'.deadFlows id accept := by
  rw [deadFlows_eq_filterMap_links, deadFlows_eq_filterMap_links, ← agree.links]
  exact List.filterMap_congr fun link member => by rw [agree.resolve below member]

end Agreement

end Diagram

namespace Walk

section Lockstep

variable {d d' : Diagram} {e : Element}

theorem addTask_map_bare (w : Walk) (e : Element) (live : List LiveFlow) :
    w.addTask e (live.map LiveFlow.bare) = w.addTask e live := by
  rcases live with _ | ⟨_, _ | _⟩ <;> rfl

theorem addGateway_map_bare (w : Walk) (e : Element) (live : List LiveFlow) :
    w.addGateway e (live.map LiveFlow.bare) = w.addGateway e live := by
  rcases live with _ | ⟨_, _ | ⟨_, rest⟩⟩
  · rfl
  · rfl
  · simp only [List.map_cons, addGateway, List.map_map]
    rfl

theorem expand_congr (agree : d.AgreesAt d' e.id) (w : Walk) : w.expand d e = w.expand d' e := by
  have live := agree.liveFlows fun _ target => target
  rw [expand, expand, agree.deadFlows fun _ target => target]
  cases e.kind with
  | endEvent => simp only [agree.targets fun _ target => target]
  | exclusiveGateway =>
    refine (addGateway_map_bare _ e _).symm.trans ?_
    rw [live, addGateway_map_bare]
  | _ =>
    refine (addTask_map_bare _ e _).symm.trans ?_
    rw [live, addTask_map_bare]

theorem visit_congr {w : Walk} (agree : ∀ x ∈ w.expands e, d.AgreesAt d' x.id) : w.visit d e = w.visit d' e := by
  unfold expands at agree
  unfold visit
  split
  · rfl
  · rename_i unregistered
    rw [if_neg unregistered] at agree
    cases found : w.replacement? e.id with
    | some replacement => rfl
    | none =>
      rw [found] at agree
      exact expand_congr (agree e (List.mem_singleton_self e)) w

theorem run_congr {w : Walk} {pending : List Element} (agree : ∀ x ∈ expansions d w pending, d.AgreesAt d' x.id) :
    run d w pending = run d' w pending := by
  -- the one walk stands for both: as long as they agree, the second expands what the first does
  fun_induction run d w pending with
  | case1 w => rw [run]
  | case2 w e pending ih =>
    rw [expansions, List.forall_mem_append] at agree
    rw [run, ← visit_congr agree.1]
    exact ih agree.2

end Lockstep

end Walk

namespace Entry

variable {d d' : Diagram}

def bare (offer : Option Entry × Diagnostics) : Option (String × Element) × Diagnostics :=
  (offer.1.map fun entry => (entry.start.id, entry.first), offer.2)

theorem ofStart_congr {start start' : Element} (same : start.id = start'.id) (agree : d.AgreesAt d' start.id)
    (s : Diagnostics) : bare (ofStart d start s) = bare (ofStart d' start' s) := by
  have targets := agree.targets fun _ => Diagram.isFlowTarget_of_isTaskLike
  rw [ofStart, ofStart, agree.deadFlows fun _ => Diagram.isFlowTarget_of_isTaskLike, ← same]
  generalize d.liveFlows start.id ElementKind.isTaskLike = live at targets ⊢
  generalize d'.liveFlows start.id ElementKind.isTaskLike = live' at targets ⊢
  rcases live with _ | ⟨f, rest⟩
  · rw [List.map_eq_nil_iff.mp targets.symm]
  obtain ⟨f', rest', rfl, first, more⟩ := List.map_eq_cons_iff.mp targets.symm
  rcases rest with _ | ⟨second, rest⟩
  · rw [List.map_eq_nil_iff.mp more]
    simp only [bare, Option.map_some, same, first]
  · obtain ⟨second', rest', rfl, _, _⟩ := List.map_eq_cons_iff.mp more
    simp only [bare, Option.map_some, same, first]

theorem bare_choose_cons (d : Diagram) (start : Element) (rest : List Element) (s : Diagnostics) :
    bare (choose d (start :: rest) s) =
      match bare (ofStart d start s) with
      | (some found, reported) =>
        (some found, reported.warnAll ((rest.map Element.id).map fun id => .extraStart start.id id))
      | (none, reported) => bare (choose d rest reported) := by
  rw [choose, List.map_map]
  rcases ofStart d start s with ⟨_ | entry, reported⟩ <;> rfl

theorem choose_congr {starts starts' : List Element} (same : starts.map Element.id = starts'.map Element.id)
    (agree : ∀ start ∈ starts, d.AgreesAt d' start.id) (s : Diagnostics) :
    bare (choose d starts s) = bare (choose d' starts' s) := by
  induction starts generalizing starts' s with
  | nil =>
    rw [List.map_eq_nil_iff.mp same.symm]
    rfl
  | cons start rest ih =>
    obtain ⟨start', rest', rfl, first, later⟩ := List.map_eq_cons_iff.mp same.symm
    rw [List.forall_mem_cons] at agree
    rw [bare_choose_cons, bare_choose_cons, ofStart_congr first.symm agree.1, first, later]
    simp only [ih later.symm agree.2]

end Entry

namespace Diagram

theorem compile_congr {d d' : Diagram} {options : CompileOptions}
    (starts : d.startEvents.map Element.id = d'.startEvents.map Element.id)
    (agree : ∀ id ∈ d.consulted options, d.AgreesAt d' id) : d.compile options = d'.compile options := by
  rw [consulted, List.forall_mem_append, List.forall_mem_map] at agree
  obtain ⟨starting, expanding⟩ := agree
  have chosen : Entry.bare (Entry.resolve d) = Entry.bare (Entry.resolve d') := Entry.choose_congr starts starting {}
  rw [compile, compile]
  rcases resolved : Entry.resolve d with ⟨_ | entry, diagnostics⟩ <;>
    rcases resolved' : Entry.resolve d' with ⟨_ | entry', diagnostics'⟩ <;>
    rw [resolved, resolved'] at chosen <;>
    simp only [Entry.bare, Option.map_none, Option.map_some, Prod.mk.injEq, Option.some.injEq, reduceCtorEq, false_and,
      true_and] at chosen
  · rw [chosen]
  · obtain ⟨⟨start, first⟩, rfl⟩ := chosen
    rw [resolved] at expanding
    have walked : d.walk options.name entry diagnostics = d'.walk options.name entry' diagnostics := by
      rw [walk, walk, ← first]
      exact Walk.run_congr fun e expanded => expanding e.id (List.mem_map_of_mem expanded)
    simp only [walked, start]

/-! ### Leaving out what is not read -/

/-- Whether a compilation of `d` reads the part: start events, what consulted flows name, and these flows. -/
def reads (d : Diagram) (options : CompileOptions) : Part → Bool
  | .element e =>
    e.kind == .startEvent || (d.consulted options).any fun id => (d.outgoing id).any fun f => f.target == e.id
  | .flow f => (d.consulted options).contains f.source

def slice (parts : List Part) (options : CompileOptions) : List Part := parts.filter ((ofParts parts).reads options)

section Slice

theorem filter_filterMap_filter {α β : Type} {keep : α → Bool} {read : α → Option β} {p : β → Bool} (xs : List α)
    (kept : ∀ x y, read x = some y → p y = true → keep x = true) :
    ((xs.filter keep).filterMap read).filter p = (xs.filterMap read).filter p := by
  rw [List.filterMap_filter, List.filter_filterMap, List.filter_filterMap]
  refine List.filterMap_congr fun x _ => ?_
  cases found : read x with
  | none => simp
  | some y =>
    cases passes : p y with
    | false => split <;> simp [Option.filter, passes]
    | true => rw [if_pos (kept x y found passes)]

variable (parts : List Part) (options : CompileOptions)

theorem filter_elements_slice {p : Element → Bool}
    (kept : ∀ e, p e = true → (ofParts parts).reads options (.element e) = true) :
    (ofParts (slice parts options)).elements.filter p = (ofParts parts).elements.filter p := by
  rw [elements_ofParts, elements_ofParts]
  refine filter_filterMap_filter parts fun part e found passes => ?_
  cases part with
  | element x => exact Option.some.inj found ▸ kept e passes
  | flow f => cases found

theorem outgoing_slice {id : String} (consulted : id ∈ (ofParts parts).consulted options) :
    (ofParts (slice parts options)).outgoing id = (ofParts parts).outgoing id := by
  rw [outgoing_eq_filter, outgoing_eq_filter, flows_ofParts, flows_ofParts]
  refine filter_filterMap_filter parts fun part f found leaves => ?_
  cases part with
  | element x => cases found
  | flow g =>
    obtain rfl := Option.some.inj found
    rw [beq_iff_eq, Flow.origin?] at leaves
    split at leaves
    · cases leaves
    · exact List.contains_iff_mem.mpr (Option.some.inj leaves ▸ consulted)

theorem compile_slice : (ofParts parts).compile options = (ofParts (slice parts options)).compile options := by
  refine compile_congr ?_ fun id consulted => ⟨?_, fun f leaves => ?_⟩
  · rw [startEvents_eq_filter, startEvents_eq_filter, filter_elements_slice]
    intro e start
    rw [reads, start, Bool.true_or]
  · rw [links, links, outgoing_slice parts options consulted]
  · rw [candidates, candidates, filter_elements_slice]
    intro e named
    rw [Bool.and_eq_true, beq_iff_eq] at named
    rw [reads, Bool.or_eq_true, List.any_eq_true]
    refine .inr ⟨id, consulted, List.any_eq_true.mpr ⟨f, leaves, ?_⟩⟩
    rw [named.1, beq_self_eq_true]

end Slice

theorem agreesAt_iff {d d' : Diagram} {id : String} : d.AgreesAt d' id ↔ (decide (d.links id = d'.links id) &&
    (d.outgoing id).all fun f => (d.candidates f.target).isPerm (d'.candidates f.target)) = true := by
  rw [Bool.and_eq_true, decide_eq_true_iff, List.all_eq_true]
  simp only [List.isPerm_iff]
  exact ⟨fun agree => ⟨agree.links, agree.candidates⟩, fun agree => ⟨agree.1, agree.2⟩⟩

instance (d d' : Diagram) (id : String) : Decidable (d.AgreesAt d' id) := decidable_of_iff' _ agreesAt_iff

/--
A compilation depends on no more than it reads: the start events in order, the flows that leave them and
the expanded elements, and what these flows name. So the other parts of a document can be left out, and
the parts can come in another order, under other flow identifiers.
-/
theorem compile_local (options : CompileOptions) :
    (∀ d d' : Diagram, d.startEvents.map Element.id = d'.startEvents.map Element.id →
      (∀ id ∈ d.consulted options, d.AgreesAt d' id) → d.compile options = d'.compile options) ∧
    (∀ parts, (ofParts parts).compile options = (ofParts (slice parts options)).compile options) ∧
    ∀ d d' : Diagram, d.startEvents.map Element.id = d'.startEvents.map Element.id →
      d.elements.Perm d'.elements → (∀ id, d.links id = d'.links id) → d.compile options = d'.compile options := by
  refine ⟨fun d d' starts agree => compile_congr starts agree, fun parts => compile_slice parts options, ?_⟩
  intro d d' starts elements links
  exact compile_congr starts fun id _ => ⟨links id, fun f _ => elements.filter _⟩

/-- The forked ring in another order, with flow identifiers and with a task that nothing leads to. -/
def strayRing : Diagram := .ofParts [
  .flow ⟨some "back", none, "G2", "G1"⟩, .element ⟨"G2", some "Stuck", .exclusiveGateway, none⟩,
  .element ⟨"X", some "Stray", .task, none⟩, .flow ⟨none, some "never", "X", "A"⟩,
  .flow ⟨some "first", none, "C", "U"⟩, .flow ⟨some "second", none, "C", "G1"⟩,
  .element ringGateway, .element ⟨"U", none, .userTask, none⟩, .element ⟨"A", none, .task, none⟩,
  .element ⟨"S", some "Begin", .startEvent, none⟩, .element ⟨"C", none, .exclusiveGateway, none⟩,
  .flow ⟨none, none, "G1", "G2"⟩, .flow ⟨none, none, "A", "C"⟩, .flow ⟨none, none, "S", "A"⟩]

theorem strayRing_agrees : (∀ id ∈ forkedRing.consulted (.named "ring"), forkedRing.AgreesAt strayRing id) ∧
    forkedRing.compile (.named "ring") = strayRing.compile (.named "ring") := by
  have checked : ((forkedRing.consulted (.named "ring")).all fun id => forkedRing.AgreesAt strayRing id) = true := by cbv
  have agree : ∀ id ∈ forkedRing.consulted (.named "ring"), forkedRing.AgreesAt strayRing id :=
    fun id consulted => of_decide_eq_true (List.all_eq_true.mp checked id consulted)
  exact ⟨agree, (compile_local (.named "ring")).1 _ _ (by cbv) agree⟩

end Diagram

end BpmnWorkflow
