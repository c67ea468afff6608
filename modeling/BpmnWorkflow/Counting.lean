import BpmnWorkflow.OrderedMap

/-!
# Actions that count

An action with a counter `Counts` when it gives a value and adds a number, whatever the counter
stood at. Both are read off the parts of the action, one lemma for each way of combining them.
-/

namespace BpmnWorkflow

/-- The action gives `value` and adds `count` to the counter. -/
def Counts {α : Type} (action : StateM Nat α) (value : α) (count : Nat) : Prop :=
  ∀ n, action.run n = (value, n + count)

namespace Counts

variable {α β : Type} {action : StateM Nat α} {a : α} {b : β} {k l : Nat}

theorem pure (a : α) : Counts (pure a) a 0 := fun _ => rfl

theorem bind {next : α → StateM Nat β} (first : Counts action a k) (second : Counts (next a) b l) :
    Counts (action >>= next) b (k + l) := by
  intro n
  show (next (action.run n).1).run (action.run n).2 = (b, n + (k + l))
  rw [first n, second (n + k), Nat.add_assoc]

theorem map (first : Counts action a k) (f : α → β) : Counts (f <$> action) (f a) k := by
  intro n
  rw [StateT.run_map, first n]
  rfl

section Each

variable {γ : Type} [BEq γ] {c : γ} {f : α → StateM Nat β} {g : α → β} {seen : α → List γ}

theorem mapM (each : ∀ x, Counts (f x) (g x) ((seen x).count c)) (xs : List α) :
    Counts (xs.mapM f) (xs.map g) ((xs.flatMap seen).count c) := by
  induction xs with
  | nil => exact .pure []
  | cons x rest ih =>
    rw [List.mapM_cons, List.map_cons, List.flatMap_cons, List.count_append]
    exact (each x).bind (ih.map (g x :: ·))

theorem mapValuesM (each : ∀ x, Counts (f x) (g x) ((seen x).count c)) (m : OrderedMap α) :
    Counts (m.mapValuesM f) (m.mapValues g) ((m.values.flatMap seen).count c) := by
  intro n
  have visited := mapM (fun e => (each e.2).map (Prod.mk e.1)) m.entries n
  have entries := congrArg Prod.fst visited
  have counted := congrArg Prod.snd visited
  rw [OrderedMap.values, List.flatMap_map]
  exact Prod.ext (OrderedMap.ext_entries entries) counted

end Each

end Counts

end BpmnWorkflow
