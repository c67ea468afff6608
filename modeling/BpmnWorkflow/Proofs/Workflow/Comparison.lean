import Mathlib.Data.List.Nodup
import Mathlib.Data.List.Perm.Subperm
import BpmnWorkflow.Proofs.Workflow.References
import BpmnWorkflow.Workflow.Comparison

/-!
# What comparison ignores

The comparison looks up the steps of one side in the other, and only from left to right. As no identifier occurs
twice in a table and the tables are of one size, this finds everything: the same workflows are those whose tables are
permutations of each other, `same_iff_perm`. So being the same is an equivalence, and validation cannot tell the same
workflows apart but by the order of what it lists: `same_ignores_order_only`.
-/

namespace BpmnWorkflow

namespace OrderedMap

variable {α : Type} {m n : OrderedMap α} {key : String}

theorem nodup_entries (m : OrderedMap α) : m.entries.Nodup := List.Nodup.of_map Prod.fst m.nodup_keys

theorem perm_of_forall_find? (size : m.size = n.size) (found : ∀ e ∈ m.entries, n.find? e.1 = some e.2) :
    m.entries.Perm n.entries := by
  have subset : m.entries ⊆ n.entries := fun e member => mem_entries_iff.mpr (found e member)
  exact (List.subperm_of_subset m.nodup_entries subset).perm_of_length_le (Nat.le_of_eq size.symm)

theorem mem_keys_congr (perm : m.entries.Perm n.entries) : key ∈ m.keys ↔ key ∈ n.keys :=
  (perm.map Prod.fst).mem_iff

theorem find?_congr (perm : m.entries.Perm n.entries) (key : String) : m.find? key = n.find? key := by
  apply Option.ext
  intro value
  rw [← mem_entries_iff, ← mem_entries_iff, perm.mem_iff]

theorem contains_congr (perm : m.entries.Perm n.entries) (key : String) : m.contains key = n.contains key := by
  rw [Bool.eq_iff_iff, contains_iff, contains_iff, mem_keys_congr perm]

theorem size_eq_of_keys (same : ∀ key, key ∈ m.keys ↔ key ∈ n.keys) : m.size = n.size := by
  have perm : m.keys.Perm n.keys := (List.perm_ext_iff_of_nodup m.nodup_keys n.nodup_keys).mpr same
  have lengths := perm.length_eq
  rwa [keys, keys, List.length_map, List.length_map] at lengths

end OrderedMap

namespace Workflow

variable {a b c : Workflow}

theorem same_iff : a.same b = true ↔ a.name = b.name ∧ a.entryPoint = b.entryPoint ∧ a.size = b.size ∧
    ∀ e ∈ a.steps.entries, b.step? e.1 = some e.2 := by
  simp only [same, Bool.and_eq_true, beq_iff_eq, List.all_eq_true, and_assoc]

theorem same_iff_perm : a.same b = true ↔
    a.name = b.name ∧ a.entryPoint = b.entryPoint ∧ a.steps.entries.Perm b.steps.entries := by
  rw [same_iff]
  constructor
  · rintro ⟨name, entry, size, found⟩
    exact ⟨name, entry, OrderedMap.perm_of_forall_find? size found⟩
  · rintro ⟨name, entry, perm⟩
    refine ⟨name, entry, perm.length_eq, fun e member => ?_⟩
    exact OrderedMap.mem_entries_iff.mp (perm.mem_iff.mp member)

theorem same_iff_steps : a.same b = true ↔ a.name = b.name ∧ a.entryPoint = b.entryPoint ∧
    (∀ id, id ∈ a.steps.keys ↔ id ∈ b.steps.keys) ∧ ∀ id ∈ a.steps.keys, a.step? id = b.step? id := by
  constructor
  · intro same
    obtain ⟨name, entry, perm⟩ := same_iff_perm.mp same
    exact ⟨name, entry, fun _ => OrderedMap.mem_keys_congr perm, fun id _ => OrderedMap.find?_congr perm id⟩
  · rintro ⟨name, entry, keys, steps⟩
    refine same_iff.mpr ⟨name, entry, OrderedMap.size_eq_of_keys keys, ?_⟩
    rintro ⟨id, step⟩ member
    rw [← steps id (List.mem_map_of_mem member)]
    exact OrderedMap.mem_entries_iff.mp member

theorem same_refl (a : Workflow) : a.same a = true := same_iff_perm.mpr ⟨rfl, rfl, .refl _⟩

theorem same_symm (same : a.same b = true) : b.same a = true := by
  obtain ⟨name, entry, perm⟩ := same_iff_perm.mp same
  exact same_iff_perm.mpr ⟨name.symm, entry.symm, perm.symm⟩

theorem same_trans (first : a.same b = true) (second : b.same c = true) : a.same c = true := by
  obtain ⟨name, entry, perm⟩ := same_iff_perm.mp first
  obtain ⟨name', entry', perm'⟩ := same_iff_perm.mp second
  exact same_iff_perm.mpr ⟨name.trans name', entry.trans entry', perm.trans perm'⟩

/-! ### Validation of the same workflows -/

theorem stepTargets_perm (perm : a.steps.entries.Perm b.steps.entries) : a.stepTargets.Perm b.stepTargets :=
  (perm.map Prod.snd).flatMap fun _ _ => .refl _

theorem danglingTransitions_perm (perm : a.steps.entries.Perm b.steps.entries) :
    a.danglingTransitions.Perm b.danglingTransitions := by
  refine perm.flatMap fun e _ => ?_
  -- both tables have the same identifiers, so each step has the same dangling transitions
  simp only [OrderedMap.contains_congr perm]
  exact .refl _

theorem isClosed_congr (entry : a.entryPoint = b.entryPoint) (perm : a.steps.entries.Perm b.steps.entries) :
    a.isClosed = b.isClosed := by
  rw [isClosed, isClosed, entry, OrderedMap.contains_congr perm, (danglingTransitions_perm perm).isEmpty_eq]

/--
Two workflows are the same just in case their names, their entry points, their sets of identifiers and the steps
under each of these are equal, in other words if only the order of the steps differs. That is an equivalence, and
what validation says of the same workflows is equal, up to the order of what it lists.
-/
theorem same_ignores_order_only :
    (∀ a b : Workflow, a.same b = true ↔ a.name = b.name ∧ a.entryPoint = b.entryPoint ∧
      (∀ id, id ∈ a.steps.keys ↔ id ∈ b.steps.keys) ∧ ∀ id ∈ a.steps.keys, a.step? id = b.step? id) ∧
    (∀ a b : Workflow, a.same b = true ↔
      a.name = b.name ∧ a.entryPoint = b.entryPoint ∧ a.steps.entries.Perm b.steps.entries) ∧
    Equivalence (fun a b : Workflow => a.same b = true) ∧
    ∀ a b : Workflow, a.same b = true →
      a.isClosed = b.isClosed ∧ a.size = b.size ∧ a.entryStep? = b.entryStep? ∧
      a.danglingTransitions.Perm b.danglingTransitions ∧ a.stepTargets.Perm b.stepTargets := by
  refine ⟨fun _ _ => same_iff_steps, fun _ _ => same_iff_perm, ⟨same_refl, same_symm, same_trans⟩, ?_⟩
  intro a b same
  obtain ⟨_, entry, perm⟩ := same_iff_perm.mp same
  have entryStep : a.entryStep? = b.entryStep? := by
    rw [entryStep?, entryStep?, entry]
    exact OrderedMap.find?_congr perm b.entryPoint
  exact ⟨isClosed_congr entry perm, perm.length_eq, entryStep, danglingTransitions_perm perm, stepTargets_perm perm⟩

/-- Two tasks that lead nowhere, in either order. -/
def strayTasks (ids : List String) : Workflow where
  name := "stray"
  entryPoint := "A"
  steps := .ofEntries (ids.map fun id => (id, .task id "" .guideline ⟨id ++ "?", "Continue", none⟩))

theorem strayTasks_same : (strayTasks ["A", "B"]).same (strayTasks ["B", "A"]) = true ∧
    strayTasks ["A", "B"] ≠ strayTasks ["B", "A"] ∧
    (strayTasks ["A", "B"]).isClosed = (strayTasks ["B", "A"]).isClosed ∧
    (strayTasks ["A", "B"]).entryStep? = (strayTasks ["B", "A"]).entryStep? ∧
    (strayTasks ["A", "B"]).danglingTransitions.Perm (strayTasks ["B", "A"]).danglingTransitions ∧
    (strayTasks ["A", "B"]).danglingTransitions ≠ (strayTasks ["B", "A"]).danglingTransitions := by
  have same : (strayTasks ["A", "B"]).same (strayTasks ["B", "A"]) = true := by decide
  obtain ⟨closed, _, entry, dangling, _⟩ := same_ignores_order_only.2.2.2 _ _ same
  exact ⟨same, by decide, closed, entry, dangling, by decide⟩

end Workflow

end BpmnWorkflow
