import BpmnWorkflow.Proofs.Walk.Coverage
import BpmnWorkflow.Proofs.Walk.Growth

/-!
# The ends added after tasks

An end that is added after a task shares its name space with the diagram. `undisplaced_compile_iff` says when
that costs the diagram nothing: just in case all that the walk comes to under the identifier of an
added end would make the very same end. Whoever comes first has the identifier; `Ending` keeps track
of who did.
-/

namespace BpmnWorkflow

open Relation (ReflTransGen)

theorem Step.eq_terminal_of_mapTransitions {f : Transition → Transition} {s : Step} {title : String}
    (same : s.mapTransitions f = .terminal title) : s = .terminal title := by
  cases s with
  | terminal => exact same
  | task | condition => cases same

theorem syntheticEndId_injective {s t : String} (same : syntheticEndId s = syntheticEndId t) : s = t :=
  (String.append_right_inj "endEvent-").mp same

namespace Diagram

/-- A walk that has expanded `reached` has come to `x`, whether it then expanded `x` or not. -/
def ComesTo (d : Diagram) (first : Element) (reached : List Element) (x : Element) : Prop :=
  x = first ∨ ∃ e ∈ reached, d.LeadsTo e x

/-- The step that `e` makes by its kind, name and flows, led on through gateways that only pass on. -/
def IsStepOf (d : Diagram) (e : Element) (step : Step) : Prop :=
  ∃ c : String → String,
    step = (d.stepOf e).mapTransitions (fun t => { t with stepName := c t.stepName }) ∧
      ∀ x, d.LeadsTo e x → ∃ z, ReflTransGen d.PassesTo x z ∧ z.id = c x.id

/-- Nothing that the walk comes to loses its step, or gets one, because of an end that is added. -/
structure Undisplaced (d : Diagram) (first : Element) (reached : List Element) (gateways : List String)
    (w : Workflow) : Prop where
  idleTasks : ∀ t, d.ComesTo first reached t → d.IsIdleTask t → ∃ target,
    w.step? t.id = some (t.taskStep ⟨target, "End the workflow", none⟩) ∧
      w.step? target = some (.terminal "End of workflow")
  others : ∀ x, d.ComesTo first reached x → ¬ d.IsIdleTask x → ¬ d.IsBypass x →
    ∃ step, w.step? x.id = some step ∧ d.IsStepOf x step
  bypasses : ∀ g, d.ComesTo first reached g → d.IsBypass g → g.id ∈ w.steps.keys →
    g.id ∉ gateways ∧ d.OnRing g ∧ w.step? g.id = some g.endStep

/-- Whatever the walk comes to under the identifier of an added end makes that end itself. -/
def Unclaimed (d : Diagram) (first : Element) (reached : List Element) (gateways : List String) : Prop :=
  ∀ t ∈ reached, d.IsIdleTask t → ∀ x, d.ComesTo first reached x → x.id = syntheticEndId t.id →
    d.stepOf x = .terminal "End of workflow" ∧ (d.IsBypass x → x.id ∉ gateways ∧ d.OnRing x)

theorem ComesTo.mono {d : Diagram} {first x : Element} {reached more : List Element}
    (come : d.ComesTo first reached x) : d.ComesTo first (reached ++ more) x :=
  come.imp_right fun ⟨e, member, step⟩ => ⟨e, List.mem_append_left _ member, step⟩

end Diagram

namespace Walk

/-! ### Who has the identifier of an added end -/

/-- What a walk on its way makes of idle tasks, and of the identifiers of the ends after them. -/
structure Ending (d : Diagram) (first : Element) (expanded : List Element) (w : Walk) (pending : List Element) :
    Prop where
  came : ∀ e ∈ expanded ++ pending, d.ComesTo first expanded e
  settled : ∀ e ∈ expanded, w.isSettled e.id = true
  idleTasks : ∀ t ∈ expanded, d.IsIdleTask t → w.workflow.step? t.id = some (d.stepOf t)
  ends : ∀ t ∈ expanded, d.IsIdleTask t →
    w.workflow.step? (syntheticEndId t.id) = some (.terminal syntheticEndTitle) ∨
      ∃ x ∈ expanded, x.id = syntheticEndId t.id ∧ x.id ∉ w.gateways

section Step

variable {d : Diagram} {first e t x : Element} {w w' : Walk} {expanded pending new next : List Element}

theorem Outcome.mem_new (outcome : Outcome d w e new w' next) (member : x ∈ next) : e ∈ new := by
  cases outcome with
  | registered | again => cases member
  | bypassed | ring | dangling | built => exact List.mem_singleton_self e

theorem Outcome.of_idle (outcome : Outcome d w e new w' next) (added : e ∈ new) (idle : d.IsIdleTask e) :
    w.isSettled e.id = false ∧ w'.bypassed = w.bypassed ∧ w'.workflow =
      (w.workflow.addStep (syntheticEndId e.id) (.terminal syntheticEndTitle)).insertStep e.id (d.stepOf e) := by
  cases outcome with
  | registered | again => cases added
  | bypassed _ passes | ring _ passes => exact (Diagram.not_isBypass_of_isTask idle.1 passes.isBypass).elim
  | dangling fresh _ workflow bypassed => exact ⟨fresh, bypassed, workflow⟩
  | built _ _ busy => exact (busy idle).elim

/-- An expanded idle task leads to its end, or to the element that has had the identifier before. -/
theorem Ending.ends_expanded (traced : Traced d first expanded w (e :: pending))
    (ending : Ending d first expanded w (e :: pending)) (outcome : Outcome d w e new w' next) (added : e ∈ new)
    (idle : d.IsIdleTask e) :
    w'.workflow.step? (syntheticEndId e.id) = some (.terminal syntheticEndTitle) ∨
      ∃ x ∈ expanded ++ new, x.id = syntheticEndId e.id ∧ x.id ∉ w'.gateways := by
  obtain ⟨fresh, bypassed, workflow⟩ := outcome.of_idle added idle
  rw [workflow, Workflow.step?_insertStep, if_neg (syntheticEndId_ne e.id), Workflow.step?_addStep]
  by_cases taken : syntheticEndId e.id ∈ w.workflow.steps.keys
  · -- another task has no end of that identifier, so that an element came first
    refine .inr ?_
    rcases traced.keys _ taken with ⟨x, member, same, unbypassed⟩ | ⟨t, member, _, same⟩
    · refine ⟨x, List.mem_append_left _ member, same, ?_⟩
      rw [gateways_of_bypassed_eq bypassed, same]
      exact unbypassed
    · have again := ending.settled t member
      rw [syntheticEndId_injective same, fresh] at again
      cases again
  · exact .inl (if_pos ⟨rfl, taken⟩)

theorem ending_step (outcome : Outcome d w e new w' next) (traced : Traced d first expanded w (e :: pending))
    (ending : Ending d first expanded w (e :: pending)) :
    Ending d first (expanded ++ new) w' (next ++ pending) := by
  have own : ∀ y ∈ new, y = e := fun y member => (outcome.settles member).2.1
  constructor
  case came =>
    intro y member
    simp only [List.mem_append] at member
    rcases member with (old | added) | (after | later)
    · exact (ending.came y (List.mem_append_left _ old)).mono
    · exact own y added ▸ (ending.came e (by simp)).mono
    · exact .inr ⟨e, List.mem_append_right _ (outcome.mem_new after), outcome.leadsTo after⟩
    · exact (ending.came y (by simp [later])).mono
  case settled =>
    intro y member
    rcases List.mem_append.mp member with old | added
    · exact outcome.isSettled (ending.settled y old)
    · exact own y added ▸ outcome.isSettled_visited
  case idleTasks =>
    intro t member idle
    rcases List.mem_append.mp member with old | added
    · refine outcome.extends.step?_final (ending.idleTasks t old idle) fun way leads => ?_
      rw [Diagram.stepOf_of_idle idle] at leads
      obtain rfl := List.mem_singleton.mp leads
      exact traced.ends t old idle
    · obtain rfl := own t added
      rw [(outcome.of_idle added idle).2.2, Workflow.step?_insertStep, if_pos rfl]
  case ends =>
    intro t member idle
    rcases List.mem_append.mp member with old | added
    · rcases ending.ends t old idle with found | ⟨x, present, same, unbypassed⟩
      · exact .inl (outcome.extends.step?_final found fun _ leads => nomatch leads)
      · refine .inr ⟨x, List.mem_append_left _ present, same, ?_⟩
        exact outcome.notMem_gateways (same ▸ traced.ends t old idle) unbypassed
    · obtain rfl := own t added
      exact ending.ends_expanded traced outcome added idle

theorem ending_start (d : Diagram) (name : String) (first : Element) (diagnostics : Diagnostics) :
    Ending d first [] (start name first diagnostics) [first] where
  came _ member := .inl (List.mem_singleton.mp member)
  settled _ member := nomatch member
  idleTasks _ member := nomatch member
  ends _ member := nomatch member

theorem ending_run (unambiguous : d.Unambiguous first) (name : String) (diagnostics : Diagnostics) :
    Ending d first (expansions d (start name first diagnostics) [first])
      (run d (start name first diagnostics) [first]) [] :=
  ((course_run d (start name first diagnostics) [first]).preserves
    (P := fun expanded w pending => Traced d first expanded w pending ∧ Ending d first expanded w pending)
    ordered_nil ⟨traced_start d name first diagnostics, ending_start d name first diagnostics⟩
    fun ordered outcome held =>
      ⟨traced_step unambiguous ordered outcome held.1, ending_step outcome held.1 held.2⟩).2

end Step

/-! ### When nothing is pending -/

section Over

variable {d : Diagram} {first e t x : Element} {reached : List Element} {w : Walk}

theorem Ending.unclaimed (ending : Ending d first reached w [])
    (undisplaced : d.Undisplaced first reached w.gateways w.workflow) :
    d.Unclaimed first reached w.gateways := by
  intro t member idle x come taken
  have ended : w.workflow.step? x.id = some (.terminal "End of workflow") := by
    obtain ⟨target, own, ended⟩ := undisplaced.idleTasks t (ending.came t (List.mem_append_left _ member)) idle
    rw [ending.idleTasks t member idle, Diagram.stepOf_of_idle idle] at own
    have way := (Step.task.inj (Option.some.inj own)).2.2.2
    rw [taken, (Transition.mk.inj way).1]
    exact ended
  by_cases task : d.IsIdleTask x
  · obtain ⟨target, own, _⟩ := undisplaced.idleTasks x come task
    rw [ended] at own
    cases own
  by_cases bypass : d.IsBypass x
  · obtain ⟨unbypassed, ring, own⟩ := undisplaced.bypasses x come bypass (mem_keys_of_step? ended)
    rw [ended] at own
    exact ⟨(Diagram.stepOf_of_bypass bypass).trans (Option.some.inj own).symm, fun _ => ⟨unbypassed, ring⟩⟩
  · obtain ⟨step, found, c, own, _⟩ := undisplaced.others x come task bypass
    rw [ended] at found
    rw [← Option.some.inj found] at own
    exact ⟨Step.eq_terminal_of_mapTransitions own.symm, fun again => (bypass again).elim⟩

namespace Finished

theorem meets_of_comesTo (finished : Finished d first reached w) (come : d.ComesTo first reached x) :
    d.Meets first x := by
  rcases come with rfl | ⟨e, _, step⟩
  · exact .inl rfl
  · exact step.meets first

/-- What the walk comes to is expanded, unless the end after a task has its identifier. -/
theorem mem_reached_or_taken (finished : Finished d first reached w) (come : d.ComesTo first reached x) :
    x ∈ reached ∨ ∃ t ∈ reached, d.IsIdleTask t ∧ x.id = syntheticEndId t.id := by
  by_cases taken : ∃ t ∈ reached, d.IsIdleTask t ∧ x.id = syntheticEndId t.id
  · exact .inr taken
  · have settled : w.isSettled x.id = true := by
      rcases come with rfl | ⟨e, member, step⟩
      · exact finished.isSettled_first
      · exact finished.isSettled_of_leadsTo member step
    refine .inl (finished.mem_reached_of_isSettled (finished.meets_of_comesTo come) settled ?_)
    intro t member idle same
    exact taken ⟨t, member, idle, same⟩

theorem step?_terminal (finished : Finished d first reached w) (member : e ∈ reached) (unbypassed : e.id ∉ w.gateways)
    {title : String} (ended : d.stepOf e = .terminal title) : w.workflow.step? e.id = some (.terminal title) := by
  obtain ⟨step, found, same⟩ := finished.traced.steps e member unbypassed
  rw [ended] at same
  rw [found, Step.eq_terminal_of_mapTransitions same]

theorem isStepOf_settle (finished : Finished d first reached w) : d.IsStepOf e (w.settle (d.stepOf e)) := by
  refine ⟨w.standIn, rfl, fun x step => ?_⟩
  exact finished.traced.exists_standIn finished.unambiguous (step.meets first)

section Unclaimed

variable (finished : Finished d first reached w) (ending : Ending d first reached w [])
  (unclaimed : d.Unclaimed first reached w.gateways)

include finished ending unclaimed in
theorem notMem_gateways_of_unclaimed {k : String} (known : k ∈ w.workflow.steps.keys) : k ∉ w.gateways := by
  rcases finished.traced.keys k known with ⟨_, _, _, unbypassed⟩ | ⟨t, member, idle, rfl⟩
  · exact unbypassed
  · intro bypassed
    obtain ⟨g, present, same, bypass⟩ := finished.exists_gateway bypassed
    have come := ending.came g (List.mem_append_left _ present)
    exact ((unclaimed t member idle g come same).2 bypass).1 (same ▸ bypassed)

include finished ending unclaimed in
theorem step?_addedEnd (member : t ∈ reached) (idle : d.IsIdleTask t) :
    w.workflow.step? (syntheticEndId t.id) = some (.terminal "End of workflow") := by
  rcases ending.ends t member idle with found | ⟨x, present, same, unbypassed⟩
  · exact found
  · have ended := (unclaimed t member idle x (ending.came x (List.mem_append_left _ present)) same).1
    exact same ▸ finished.step?_terminal present unbypassed ended

include finished ending unclaimed in
theorem step?_own (member : e ∈ reached) (unbypassed : e.id ∉ w.gateways) :
    w.workflow.step? e.id = some (w.settle (d.stepOf e)) := by
  obtain ⟨step, found, same⟩ := finished.traced.steps e member unbypassed
  rw [found, ← same]
  refine congrArg some ((Step.mapTransitions_congr fun t leads => ?_).trans (Step.mapTransitions_id step)).symm
  have named : t.stepName ∈ w.workflow.references :=
    Workflow.mem_references_iff.mpr (.inr ⟨e.id, step, found, t, leads, rfl⟩)
  have known := (finished.closing.references _ named).resolve_right List.not_mem_nil
  rw [standIn_of_notMem (finished.notMem_gateways_of_unclaimed ending unclaimed known)]

include finished ending unclaimed in
theorem undisplaced_of_unclaimed : d.Undisplaced first reached w.gateways w.workflow := by
  constructor
  case idleTasks =>
    intro t come idle
    have member : t ∈ reached := by
      rcases finished.mem_reached_or_taken come with member | ⟨t', member', idle', taken⟩
      · exact member
      · have ended := (unclaimed t' member' idle' t come taken).1
        rw [Diagram.stepOf_of_idle idle] at ended
        cases ended
    refine ⟨syntheticEndId t.id, ?_, finished.step?_addedEnd ending unclaimed member idle⟩
    rw [ending.idleTasks t member idle, Diagram.stepOf_of_idle idle]
    rfl
  case others =>
    intro x come _ own
    have unbypassed := finished.notMem_gateways (finished.meets_of_comesTo come) own
    rcases finished.mem_reached_or_taken come with member | ⟨t, member, idle, taken⟩
    · exact ⟨_, finished.step?_own ending unclaimed member unbypassed, finished.isStepOf_settle⟩
    · -- the added end is there in its place, and it is the step that `x` would have made
      have ended := (unclaimed t member idle x come taken).1
      have same : w.settle (d.stepOf x) = .terminal "End of workflow" := by
        rw [ended]
        rfl
      refine ⟨.terminal "End of workflow", ?_, same ▸ finished.isStepOf_settle⟩
      rw [taken]
      exact finished.step?_addedEnd ending unclaimed member idle
  case bypasses =>
    intro g come bypass known
    have unbypassed := finished.notMem_gateways_of_unclaimed ending unclaimed known
    rcases finished.mem_reached_or_taken come with member | ⟨t, member, idle, taken⟩
    · have found := finished.step?_own ending unclaimed member unbypassed
      rw [Diagram.stepOf_of_bypass bypass] at found
      exact ⟨unbypassed, finished.onRing member bypass unbypassed, found⟩
    · obtain ⟨ended, clear⟩ := unclaimed t member idle g come taken
      rw [Diagram.stepOf_of_bypass bypass] at ended
      refine ⟨unbypassed, (clear bypass).2, ?_⟩
      rw [ended, taken]
      exact finished.step?_addedEnd ending unclaimed member idle

end Unclaimed

end Finished

end Over

end Walk

namespace Diagram

/--
The ends added after tasks capture and displace nothing, just in case whatever the walk comes to
under the identifier of such an end makes an end of the same title.
-/
theorem undisplaced_compile_iff {d : Diagram} {options : CompileOptions} {w : Workflow} {entry : Entry}
    {diagnostics : Diagnostics} (resolved : Entry.resolve d = (some entry, diagnostics))
    (compiled : (d.compile options).result = .ok w) :
    d.Undisplaced entry.first (d.expanded options.name entry diagnostics)
        (d.walk options.name entry diagnostics).gateways w ↔
      d.Unclaimed entry.first (d.expanded options.name entry diagnostics)
        (d.walk options.name entry diagnostics).gateways := by
  obtain ⟨entry', diagnostics', resolved', rfl⟩ := walk_of_compile compiled
  rw [resolved, Prod.mk.injEq, Option.some.injEq] at resolved'
  obtain ⟨rfl, rfl⟩ := resolved'
  have finished := finished_walk resolved options.name
  have ending : Walk.Ending d entry.first (d.expanded options.name entry diagnostics)
      (d.walk options.name entry diagnostics) [] :=
    Walk.ending_run finished.unambiguous options.name diagnostics
  exact ⟨ending.unclaimed, finished.undisplaced_of_unclaimed ending⟩

/-! ### A task with the identifier of an added end -/

def archiveTask : Element := ⟨"endEvent-T", some "Archive", .userTask, none⟩

/-- `T` leads nowhere, and what is added after it has the identifier of the task beside it. -/
def claimedEnd : Diagram := .ofParts [
  .element ⟨"S", none, .startEvent, none⟩, .element ⟨"C", none, .exclusiveGateway, none⟩,
  .element ⟨"T", none, .task, none⟩, .element archiveTask, .element ⟨"X", none, .endEvent, none⟩,
  .flow ⟨none, none, "S", "C"⟩, .flow ⟨none, some "skip", "C", "T"⟩, .flow ⟨none, some "keep", "C", "endEvent-T"⟩,
  .flow ⟨none, none, "endEvent-T", "X"⟩]

def claimedEndWorkflow : Workflow where
  name := "claimed"
  entryPoint := "C"
  steps := OrderedMap.empty
    |>.insert "C" (.condition "" "" [⟨"T", "skip", some "skip"⟩, ⟨"endEvent-T", "keep", some "keep"⟩])
    |>.insert "endEvent-T" (.terminal "End of workflow")
    |>.insert "T" (.task "" "" .guideline ⟨"endEvent-T", "End the workflow", none⟩)

def claimedEntry : Entry := ⟨⟨"S", none, .startEvent, none⟩, ⟨"C", none, .exclusiveGateway, none⟩⟩

theorem not_unclaimed_claimedEnd {reached : List Element} {gateways : List String}
    (choice : claimedEntry.first ∈ reached) (task : (⟨"T", none, .task, none⟩ : Element) ∈ reached) :
    ¬ claimedEnd.Unclaimed claimedEntry.first reached gateways := by
  intro unclaimed
  have ways : claimedEnd.successors claimedEntry.first = [⟨"T", none, .task, none⟩, archiveTask] := by cbv
  have come : claimedEnd.ComesTo claimedEntry.first reached archiveTask := by
    refine .inr ⟨_, choice, ?_⟩
    rw [LeadsTo, ways]
    exact List.mem_cons_of_mem _ List.mem_cons_self
  have ended := (unclaimed _ task ⟨rfl, by cbv⟩ archiveTask come rfl).1
  have busy : claimedEnd.stepOf archiveTask = .task "Archive" "" .guideline ⟨"X", "Continue", none⟩ := by cbv
  rw [busy] at ended
  cases ended

theorem claimedEnd_displaced : (claimedEnd.compile (.named "claimed")).result = .ok claimedEndWorkflow ∧
    ¬ claimedEnd.Undisplaced claimedEntry.first
      (claimedEnd.expanded "claimed" claimedEntry ⟨[.entryResolved "S" "C"], 0, none⟩)
      (claimedEnd.walk "claimed" claimedEntry ⟨[.entryResolved "S" "C"], 0, none⟩).gateways claimedEndWorkflow := by
  have resolved : Entry.resolve claimedEnd = (some claimedEntry, ⟨[.entryResolved "S" "C"], 0, none⟩) := by cbv
  have compiled : (claimedEnd.compile (.named "claimed")).result = .ok claimedEndWorkflow := by cbv
  have expanded : claimedEnd.expanded "claimed" claimedEntry ⟨[.entryResolved "S" "C"], 0, none⟩ =
      [claimedEntry.first, ⟨"T", none, .task, none⟩] := by cbv
  refine ⟨compiled, fun undisplaced => ?_⟩
  have unclaimed := (undisplaced_compile_iff resolved compiled).mp undisplaced
  refine not_unclaimed_claimedEnd ?_ ?_ unclaimed
  · rw [CompileOptions.named, expanded]
    exact List.mem_cons_self
  · rw [CompileOptions.named, expanded]
    exact List.mem_cons_of_mem _ List.mem_cons_self

end Diagram

end BpmnWorkflow
