import BpmnWorkflow.Proofs.Positions
import BpmnWorkflow.Proofs.Workflow.Path

/-!
# What validation promises

The dangling transitions are the transitions, place by place, that lead to no step. A workflow without them, whose entry
point is a step, is closed, and whoever runs a closed workflow never leaves its steps:
`validation_sound_and_complete`.
-/

namespace BpmnWorkflow

namespace Workflow

/-- The transitions of each step, with the step that has them. -/
def exits (w : Workflow) : List (List (String × Transition)) :=
  w.steps.entries.map fun (id, step) => step.transitions.map (id, ·)

/-- The step and the transition at a place: the number of a step and that of one of its transitions. -/
def exitAt? (w : Workflow) (place : Nat × Nat) : Option (String × Transition) :=
  w.steps.entries[place.1]?.bind fun (id, step) => step.transitions[place.2]?.map (id, ·)

/-- The identifiers that a run has come to, the last one first: it begins at the entry point and goes on by any
transition of the step that it has come to. -/
inductive Run (w : Workflow) : List String → Prop
  | start : w.Run [w.entryPoint]
  | next {here there : String} {before : List String} :
      w.Run (here :: before) → w.Follows here there → w.Run (there :: here :: before)

variable {w : Workflow} {here there : String} {before : List String}

/-! ### Dangling transitions -/

theorem atPlace?_exits (w : Workflow) (place : Nat × Nat) : atPlace? w.exits place = w.exitAt? place := by
  rw [atPlace?, exits, List.getElem?_map, exitAt?, Option.bind_map]
  refine Option.bind_congr fun entry _ => ?_
  exact List.getElem?_map

theorem danglingTransitions_eq_map_exits (w : Workflow) : w.danglingTransitions =
    (w.exits.flatMap (·.filter fun exit => !w.steps.contains exit.2.stepName)).map
      fun exit => ⟨exit.1, exit.2.stepName⟩ := by
  rw [danglingTransitions, exits, List.map_flatMap, List.flatMap_map]
  refine List.flatMap_congr fun entry _ => ?_
  rw [List.filter_map, List.map_map]
  rfl

def danglingPlaces (w : Workflow) : List (Nat × Nat) :=
  placesOf (fun exit => !w.steps.contains exit.2.stepName) w.exits

theorem mem_danglingPlaces_iff {place : Nat × Nat} :
    place ∈ w.danglingPlaces ↔ ∃ id t, w.exitAt? place = some (id, t) ∧ t.stepName ∉ w.steps.keys := by
  simp only [danglingPlaces, mem_placesOf_iff, atPlace?_exits, Prod.exists, Bool.not_eq_true', ← Bool.not_eq_true,
    OrderedMap.contains_iff]

theorem map_exitAt?_danglingPlaces (w : Workflow) :
    w.danglingPlaces.map (fun place => (w.exitAt? place).map fun exit => ⟨exit.1, exit.2.stepName⟩) =
      w.danglingTransitions.map some := by
  have read := congrArg (List.map (Option.map fun exit => (⟨exit.1, exit.2.stepName⟩ : DanglingTransition)))
    (map_atPlace?_placesOf (p := fun exit => !w.steps.contains exit.2.stepName) w.exits)
  rw [List.map_map, List.map_map] at read
  rw [danglingTransitions_eq_map_exits, List.map_map, danglingPlaces]
  simpa only [Function.comp_def, atPlace?_exits, Option.map_some] using read

/-! ### Runs -/

theorem Follows.mem_references (follows : w.Follows here there) : there ∈ w.references := by
  obtain ⟨step, found, leads⟩ := follows
  exact mem_references_iff.mpr (.inr ⟨here, step, found, leads⟩)

/-- A run of a closed workflow stays on its steps, since each move is along a reference. -/
theorem Run.mem_keys (closed : w.isClosed = true) {visited : List String} (run : w.Run visited) :
    ∀ id ∈ visited, id ∈ w.steps.keys := by
  have sound := isClosed_iff.mp closed
  induction run with
  | start =>
    intro id member
    obtain rfl := List.mem_singleton.mp member
    exact sound _ (mem_references_iff.mpr (.inl rfl))
  | next _ follows ih => exact List.forall_mem_cons.mpr ⟨sound _ follows.mem_references, ih⟩

theorem Run.last_of_stuck (closed : w.isClosed = true) (run : w.Run (here :: before))
    (stuck : ∀ there, ¬ w.Run (there :: here :: before)) :
    ∃ title, w.step? here = some (.terminal title) ∨ ∃ prompt, w.step? here = some (.condition title prompt []) := by
  obtain ⟨step, found⟩ := OrderedMap.mem_keys_iff.mp (run.mem_keys closed here List.mem_cons_self)
  have noExit : ∀ t ∈ step.transitions, False := fun t leads => stuck t.stepName (run.next ⟨step, found, t, leads, rfl⟩)
  cases step with
  | task _ _ _ outgoing => exact (noExit outgoing (List.mem_singleton_self outgoing)).elim
  | condition title prompt outgoing =>
    have none : outgoing = [] := List.eq_nil_iff_forall_not_mem.mpr noExit
    exact ⟨title, .inr ⟨prompt, by rw [← none]; exact found⟩⟩
  | terminal title => exact ⟨title, .inl found⟩

/--
Validation tells a consumer what a run may meet. The dangling transitions are those at the places, each once and in
order of steps and of the transitions within a step, where a transition leads to no step. A workflow is closed just in
case the entry point and all targets are steps; then every run, however long, comes to steps only, and where it
cannot go on there is an end or a condition without branches.
-/
theorem validation_sound_and_complete (w : Workflow) :
    (∃ places : List (Nat × Nat), places.Pairwise (Prod.Lex (· < ·) (· < ·)) ∧
      (∀ place, place ∈ places ↔ ∃ id t, w.exitAt? place = some (id, t) ∧ t.stepName ∉ w.steps.keys) ∧
      places.map (fun place => (w.exitAt? place).map fun exit => ⟨exit.1, exit.2.stepName⟩) =
        w.danglingTransitions.map some) ∧
    (w.isClosed = true ↔ w.entryPoint ∈ w.steps.keys ∧ ∀ target ∈ w.stepTargets, target ∈ w.steps.keys) ∧
    (w.isClosed = true → ∀ here before, w.Run (here :: before) →
      (∀ id ∈ here :: before, ∃ step, w.step? id = some step) ∧
      ((∀ there, ¬ w.Run (there :: here :: before)) → ∃ title, w.step? here = some (.terminal title) ∨
        ∃ prompt, w.step? here = some (.condition title prompt []))) := by
  refine ⟨⟨w.danglingPlaces, pairwise_placesOf _, fun _ => mem_danglingPlaces_iff, map_exitAt?_danglingPlaces w⟩, ?_, ?_⟩
  · rw [isClosed_iff, references, List.forall_mem_cons]
  · intro closed here before run
    exact ⟨fun id visited => OrderedMap.mem_keys_iff.mp (run.mem_keys closed id visited), run.last_of_stuck closed⟩

/-- Asks again until the answer is yes, and then puts a question that nobody can answer. -/
def insistence : Workflow where
  name := "insistence"
  entryPoint := "Ask"
  steps := .ofEntries [
    ("Ask", .task "Ask" "" .guideline ⟨"Agreed", "Continue", none⟩),
    ("Agreed", .condition "Agreed?" "" [⟨"Ask", "No", some "No"⟩, ⟨"Mute", "Yes", some "Yes"⟩]),
    ("Mute", .condition "Anything else?" "" [])]

theorem insistence_stays : insistence.isClosed = true ∧ insistence.Run ["Mute", "Agreed", "Ask", "Agreed", "Ask"] ∧
    (∀ id ∈ ["Mute", "Agreed", "Ask", "Agreed", "Ask"], ∃ step, insistence.step? id = some step) ∧
    (∀ there, ¬ insistence.Run [there, "Mute", "Agreed", "Ask", "Agreed", "Ask"]) ∧
    ∃ title, insistence.step? "Mute" = some (.terminal title) ∨
      ∃ prompt, insistence.step? "Mute" = some (.condition title prompt []) := by
  have closed : insistence.isClosed = true := by decide
  have asked : insistence.Follows "Ask" "Agreed" := ⟨_, rfl, _, .head _, rfl⟩
  have refused : insistence.Follows "Agreed" "Ask" := ⟨_, rfl, _, .head _, rfl⟩
  have agreed : insistence.Follows "Agreed" "Mute" := ⟨_, rfl, _, .tail _ (.head _), rfl⟩
  have run : insistence.Run ["Mute", "Agreed", "Ask", "Agreed", "Ask"] :=
    .next (.next (.next (.next .start asked) refused) asked) agreed
  have stuck : ∀ there, ¬ insistence.Run [there, "Mute", "Agreed", "Ask", "Agreed", "Ask"] := by
    rintro there (_ | ⟨_, step, found, t, leads, _⟩)
    obtain rfl : Step.condition "Anything else?" "" [] = step := Option.some.inj found
    cases leads
  obtain ⟨stays, ends⟩ := (validation_sound_and_complete insistence).2.2 closed _ _ run
  exact ⟨closed, run, stays, stuck, ends stuck⟩

end Workflow

end BpmnWorkflow
