import Mathlib.Data.List.Basic
import BpmnWorkflow.Compilation.Basic
import BpmnWorkflow.Proofs.Diagram.Lookup
import BpmnWorkflow.Proofs.Diagram.Parts

/-!
# What depends on documentation

The documentation of an element becomes the prompt of the step under its identifier, and nothing else comes of it. So
compiling a diagram without the documentation of some elements is compiling the diagram and leaving out the prompts
under their identifiers: `compile_undocumented`. Which identifiers these are is given by `hidden`.
-/

namespace BpmnWorkflow

variable (hidden : String → Bool)

namespace Element

def undocumented (e : Element) : Element := { e with documentation := if hidden e.id then none else e.documentation }

@[simp] theorem id_undocumented (e : Element) : (e.undocumented hidden).id = e.id := rfl

@[simp] theorem kind_undocumented (e : Element) : (e.undocumented hidden).kind = e.kind := rfl

theorem prompt_undocumented (e : Element) : (e.undocumented hidden).prompt = if hidden e.id then "" else e.prompt := by
  rw [prompt, undocumented]
  split <;> rfl

end Element

/-- The step that stands under `id`, without its prompt if that is hidden. -/
def Step.withoutPrompt (id : String) : Step → Step
  | task title prompt taskType outgoing => task title (if hidden id then "" else prompt) taskType outgoing
  | condition title prompt outgoing => condition title (if hidden id then "" else prompt) outgoing
  | terminal title => terminal title

/-! ### Workflows without prompts -/

namespace OrderedMap

variable {α β : Type}

def mapEntries (f : String → α → β) (m : OrderedMap α) : OrderedMap β :=
  ⟨m.entries.map fun e => (e.1, f e.1 e.2), by
    rw [List.map_map]
    exact m.nodup_keys⟩

theorem keys_mapEntries (f : String → α → β) (m : OrderedMap α) : (m.mapEntries f).keys = m.keys := by
  simp [keys, mapEntries, Function.comp_def]

theorem mapEntries_insert (f : String → α → β) (m : OrderedMap α) (key : String) (value : α) :
    (m.insert key value).mapEntries f = (m.mapEntries f).insert key (f key value) := by
  have placed (entries : List (String × α)) : (place key value entries).map (fun e => (e.1, f e.1 e.2)) =
      place key (f key value) (entries.map fun e => (e.1, f e.1 e.2)) := by
    induction entries with
    | nil => rfl
    | cons e rest ih =>
      rw [place, List.map_cons, place]
      split
      · rfl
      · rw [List.map_cons, ih]
  exact ext_entries (placed m.entries)

end OrderedMap

namespace Workflow

def withoutPrompts (w : Workflow) : Workflow := { w with steps := w.steps.mapEntries (Step.withoutPrompt hidden) }

variable (w : Workflow)

theorem contains_withoutPrompts (id : String) :
    (w.withoutPrompts hidden).steps.contains id = w.steps.contains id := by
  rw [OrderedMap.contains, withoutPrompts, OrderedMap.keys_mapEntries, OrderedMap.contains]

theorem size_withoutPrompts : (w.withoutPrompts hidden).size = w.size := List.length_map _

theorem transitions_withoutPrompt (id : String) (s : Step) :
    (s.withoutPrompt hidden id).transitions = s.transitions := by
  cases s <;> rfl

theorem referenceCount_withoutPrompts (id : String) :
    (w.withoutPrompts hidden).referenceCount id = w.referenceCount id := by
  have targets : (w.withoutPrompts hidden).stepTargets = w.stepTargets := by
    simp [stepTargets, withoutPrompts, OrderedMap.values, OrderedMap.mapEntries, List.flatMap_map,
      transitions_withoutPrompt]
  rw [referenceCount, references, targets]
  rfl

theorem danglingTransitions_withoutPrompts :
    (w.withoutPrompts hidden).danglingTransitions = w.danglingTransitions := by
  rw [danglingTransitions, danglingTransitions]
  simp only [contains_withoutPrompts]
  simp [withoutPrompts, OrderedMap.mapEntries, List.flatMap_map, transitions_withoutPrompt]

theorem withoutPrompts_insertStep (id : String) (step : Step) : (w.insertStep id step).withoutPrompts hidden =
    (w.withoutPrompts hidden).insertStep id (step.withoutPrompt hidden id) := by
  rw [withoutPrompts, insertStep, OrderedMap.mapEntries_insert]
  rfl

theorem withoutPrompts_redirect (source target : String) :
    (w.redirect source target).withoutPrompts hidden = (w.withoutPrompts hidden).redirect source target := by
  have steps (f : Transition → Transition) :
      (w.steps.mapValues (·.mapTransitions f)).mapEntries (Step.withoutPrompt hidden) =
        (w.steps.mapEntries (Step.withoutPrompt hidden)).mapValues (·.mapTransitions f) := by
    apply OrderedMap.ext_entries
    simp only [OrderedMap.mapEntries, OrderedMap.mapValues, List.map_map]
    refine List.map_congr_left fun e _ => ?_
    simp only [Function.comp_apply]
    cases e.2 <;> rfl
  simp only [withoutPrompts, redirect, steps]

end Workflow

/-! ### Diagrams without documentation -/

def LiveFlow.undocumented (f : LiveFlow) : LiveFlow := ⟨f.flow, f.target.undocumented hidden⟩

namespace Diagram

def undocumented (d : Diagram) : Diagram :=
  ofParts (d.elements.map (fun e => .element (e.undocumented hidden)) ++ d.flows.map .flow)

variable (d : Diagram) (id : String) (accept : ElementKind → Bool)

theorem elements_undocumented : (d.undocumented hidden).elements = d.elements.map (Element.undocumented hidden) := by
  rw [undocumented, elements_ofParts, List.filterMap_append, List.filterMap_map, List.filterMap_map]
  simp [Function.comp_def, Part.element?]

theorem flows_undocumented : (d.undocumented hidden).flows = d.flows := by
  rw [undocumented, flows_ofParts, List.filterMap_append, List.filterMap_map, List.filterMap_map]
  simp [Function.comp_def, Part.flow?]

theorem undocumented_congr {d d' : Diagram}
    (elements : d.elements.map (Element.undocumented hidden) = d'.elements.map (Element.undocumented hidden))
    (flows : d.flows = d'.flows) : d.undocumented hidden = d'.undocumented hidden := by
  have parts := congrArg (List.map Part.element) elements
  rw [List.map_map, List.map_map] at parts
  rw [undocumented, undocumented, flows]
  exact congrArg (fun parts => ofParts (parts ++ d'.flows.map .flow)) parts

theorem startEvents_undocumented :
    (d.undocumented hidden).startEvents = d.startEvents.map (Element.undocumented hidden) := by
  rw [startEvents_eq_filter, startEvents_eq_filter, elements_undocumented, List.filter_map]
  rfl

theorem outgoing_undocumented : (d.undocumented hidden).outgoing id = d.outgoing id := by
  rw [outgoing_eq_filter, outgoing_eq_filter, flows_undocumented]

theorem resolve_undocumented :
    (d.undocumented hidden).resolve id accept = (d.resolve id accept).map (Element.undocumented hidden) := by
  have named : (d.undocumented hidden).named id accept = (d.named id accept).map (Element.undocumented hidden) := by
    rw [named, named, elements_undocumented, List.filter_map]
    rfl
  rw [resolve, resolve, filter_lookup, filter_lookup, named]
  rcases d.named id accept with _ | ⟨e, _ | ⟨other, rest⟩⟩
  · rfl
  · rfl
  · simp [Except.map]

theorem liveFlows_undocumented :
    (d.undocumented hidden).liveFlows id accept = (d.liveFlows id accept).map (LiveFlow.undocumented hidden) := by
  rw [liveFlows, liveFlows, outgoing_undocumented, List.map_filterMap]
  refine List.filterMap_congr fun f _ => ?_
  rw [resolve_undocumented]
  cases d.resolve f.target accept <;> rfl

theorem deadFlows_undocumented : (d.undocumented hidden).deadFlows id accept = d.deadFlows id accept := by
  rw [deadFlows, deadFlows, outgoing_undocumented]
  refine List.filterMap_congr fun f _ => ?_
  rw [resolve_undocumented]
  cases d.resolve f.target accept <;> rfl

end Diagram

namespace Entry

def undocumented (entry : Entry) : Entry := ⟨entry.start.undocumented hidden, entry.first.undocumented hidden⟩

theorem ofStart_undocumented (d : Diagram) (start : Element) (s : Diagnostics) :
    ofStart (d.undocumented hidden) (start.undocumented hidden) s =
      Prod.map (Option.map (undocumented hidden)) id (ofStart d start s) := by
  rw [ofStart, ofStart, Element.id_undocumented, d.liveFlows_undocumented, d.deadFlows_undocumented]
  rcases d.liveFlows start.id ElementKind.isTaskLike with _ | ⟨f, _ | ⟨other, rest⟩⟩ <;> rfl

theorem choose_undocumented (d : Diagram) (starts : List Element) (s : Diagnostics) :
    choose (d.undocumented hidden) (starts.map (Element.undocumented hidden)) s =
      Prod.map (Option.map (undocumented hidden)) id (choose d starts s) := by
  induction starts generalizing s with
  | nil => rfl
  | cons start rest ih =>
    rw [List.map_cons, choose, choose, ofStart_undocumented]
    rcases ofStart d start s with ⟨_ | entry, reported⟩
    · exact ih reported
    · simp only [Prod.map, Option.map_some, List.map_map]
      rfl

theorem resolve_undocumented (d : Diagram) :
    resolve (d.undocumented hidden) = Prod.map (Option.map (undocumented hidden)) id (resolve d) := by
  rw [resolve, resolve, d.startEvents_undocumented, choose_undocumented]

end Entry

/-! ### The walk -/

namespace Walk

def withoutPrompts (w : Walk) : Walk := { w with workflow := w.workflow.withoutPrompts hidden }

variable (w : Walk) (d : Diagram) (e : Element)

theorem isRegistered_withoutPrompts (id : String) : (w.withoutPrompts hidden).isRegistered id = w.isRegistered id :=
  w.workflow.contains_withoutPrompts hidden id

theorem withoutPrompts_register (id : String) (step : Step) : (w.register id step).withoutPrompts hidden =
    (w.withoutPrompts hidden).register id (step.withoutPrompt hidden id) := by
  rw [register, register, isRegistered_withoutPrompts]
  split
  · rfl
  · simp only [withoutPrompts, Workflow.withoutPrompts_insertStep]

theorem withoutPrompts_redirect (source target : String) :
    (w.redirect source target).withoutPrompts hidden = (w.withoutPrompts hidden).redirect source target := by
  simp only [withoutPrompts, note, redirect_eq, Workflow.withoutPrompts_redirect, Workflow.referenceCount_withoutPrompts]

theorem withoutPrompts_bypass {gateway target replacement : String}
    (found : w.finalReplacement? gateway target = some replacement)
    (again : (w.withoutPrompts hidden).finalReplacement? gateway target = some replacement) :
    (w.bypass found).withoutPrompts hidden = (w.withoutPrompts hidden).bypass again :=
  withoutPrompts_redirect hidden _ gateway replacement

/-- A visit without prompts: of the walk, and of what is to be visited next. -/
def bare (next : Walk × List Element) : Walk × List Element :=
  (next.1.withoutPrompts hidden, next.2.map (Element.undocumented hidden))

theorem taskStep_undocumented (outgoing : Transition) :
    (e.undocumented hidden).taskStep outgoing = (e.taskStep outgoing).withoutPrompt hidden e.id := by
  rw [Element.taskStep, Element.prompt_undocumented]
  rfl

theorem addTask_undocumented (live : List LiveFlow) :
    (w.withoutPrompts hidden).addTask (e.undocumented hidden) (live.map (LiveFlow.undocumented hidden)) =
      bare hidden (w.addTask e live) := by
  rcases live with _ | ⟨f, _ | ⟨other, rest⟩⟩
  · simp only [addTask, bare, withoutPrompts_register, List.map_nil, taskStep_undocumented]
    rfl
  · simp only [addTask, bare, withoutPrompts_register, List.map_cons, List.map_nil, taskStep_undocumented]
    rfl
  · simp only [addTask, bare, withoutPrompts_register, List.map_cons, List.map_nil, taskStep_undocumented]
    rfl

theorem skipGateway_undocumented (gateway successor : Element) :
    (w.withoutPrompts hidden).skipGateway (gateway.undocumented hidden) (successor.undocumented hidden) =
      bare hidden (w.skipGateway gateway successor) := by
  have search : ((w.withoutPrompts hidden).warn (.bypassedGateway (gateway.undocumented hidden).id)).finalReplacement?
      (gateway.undocumented hidden).id (successor.undocumented hidden).id =
      (w.warn (.bypassedGateway gateway.id)).finalReplacement? gateway.id successor.id := rfl
  cases found : (w.warn (.bypassedGateway gateway.id)).finalReplacement? gateway.id successor.id with
  | some replacement =>
    rw [skipGateway_of_some found, skipGateway_of_some (search.trans found), bare]
    simp only [withoutPrompts_bypass hidden _ found (search.trans found)]
    rfl
  | none =>
    rw [skipGateway_of_none found, skipGateway_of_none (search.trans found), bare]
    simp only [withoutPrompts_register]
    rfl

theorem addGateway_undocumented (live : List LiveFlow) :
    (w.withoutPrompts hidden).addGateway (e.undocumented hidden) (live.map (LiveFlow.undocumented hidden)) =
      bare hidden (w.addGateway e live) := by
  rcases live with _ | ⟨f, _ | ⟨other, rest⟩⟩
  · simp only [addGateway, bare, withoutPrompts_register, List.map_nil]
    rfl
  · exact skipGateway_undocumented hidden w e f.target
  · simp only [addGateway, bare, withoutPrompts_register, List.map_cons, List.map_map, Element.prompt_undocumented]
    rfl

theorem expand_undocumented :
    (w.withoutPrompts hidden).expand (d.undocumented hidden) (e.undocumented hidden) = bare hidden (w.expand d e) := by
  have entered (dead : List Warning) : ((w.withoutPrompts hidden).note (.visiting e.id e.kind)).warnAll dead =
      ((w.note (.visiting e.id e.kind)).warnAll dead).withoutPrompts hidden := rfl
  rw [expand, expand, Element.id_undocumented, d.liveFlows_undocumented, d.deadFlows_undocumented,
    Element.kind_undocumented, entered]
  split
  · exact addGateway_undocumented hidden _ e _
  · simp only [bare, withoutPrompts_register, List.map_map]
    rfl
  all_goals exact addTask_undocumented hidden _ e _

theorem visit_undocumented :
    (w.withoutPrompts hidden).visit (d.undocumented hidden) (e.undocumented hidden) = bare hidden (w.visit d e) := by
  rw [visit, visit, isRegistered_withoutPrompts, Element.id_undocumented]
  split
  · rfl
  · have replacement : (w.withoutPrompts hidden).replacement? e.id = w.replacement? e.id := rfl
    rw [replacement]
    split
    · simp only [bare, withoutPrompts_redirect]
      rfl
    · exact expand_undocumented hidden w d e

theorem run_undocumented (pending : List Element) :
    run (d.undocumented hidden) (w.withoutPrompts hidden) (pending.map (Element.undocumented hidden)) =
      (run d w pending).withoutPrompts hidden := by
  fun_induction run d w pending with
  | case1 w => rw [List.map_nil, run]
  | case2 w e pending ih => rw [List.map_cons, run, visit_undocumented, bare, ← List.map_append, ih]

end Walk

/-! ### The compilation -/

def Compilation.withoutPrompts (c : Compilation) : Compilation :=
  ⟨c.result.map (Workflow.withoutPrompts hidden), c.notices⟩

namespace Diagram

theorem walk_undocumented (d : Diagram) (name : String) (entry : Entry) (diagnostics : Diagnostics) :
    (d.undocumented hidden).walk name (entry.undocumented hidden) diagnostics =
      (d.walk name entry diagnostics).withoutPrompts hidden :=
  Walk.run_undocumented hidden (Walk.start name entry.first diagnostics) d [entry.first]

theorem compile_undocumented (d : Diagram) (options : CompileOptions) :
    (d.undocumented hidden).compile options = (d.compile options).withoutPrompts hidden := by
  rw [compile, compile, Entry.resolve_undocumented]
  rcases Entry.resolve d with ⟨_ | entry, diagnostics⟩
  · rfl
  simp only [Prod.map, Option.map_some, id_eq, walk_undocumented]
  generalize d.walk options.name entry diagnostics = walked
  have checked : Compilation.validate (walked.withoutPrompts hidden) =
      (Compilation.validate walked).withoutPrompts hidden := by
    simp only [Compilation.validate, Walk.withoutPrompts, Workflow.danglingTransitions_withoutPrompts]
    rfl
  rw [checked, ← apply_ite (Walk.withoutPrompts hidden)]
  generalize (if options.validate = true then Compilation.validate walked else walked) = finished
  have verdict (s : Diagnostics) : Compilation.verdict options.strict (finished.workflow.withoutPrompts hidden) s =
      (Compilation.verdict options.strict finished.workflow s).map (Workflow.withoutPrompts hidden) := by
    unfold Compilation.verdict
    split
    · rfl
    · rfl
  simp only [Walk.withoutPrompts, Walk.note, Compilation.withoutPrompts, verdict, Workflow.size_withoutPrompts]
  rfl

end Diagram

end BpmnWorkflow
