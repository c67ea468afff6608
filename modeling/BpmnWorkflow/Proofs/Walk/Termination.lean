import Mathlib.Logic.Function.Iterate
import BpmnWorkflow.Proofs.Walk.Course

/-!
# Walks end

`walk_ends`: turn by turn, a walk comes to the point where nothing is pending, after no more visits
than there are flows and one; on its way every search for the end of a chain comes to an end too,
and no identifier is expanded twice.
-/

namespace BpmnWorkflow

namespace Walk

/-- One turn of a walk: the first pending element is visited, and what it leads to comes before the rest. -/
def turn (d : Diagram) : Walk × List Element → Walk × List Element
  | (w, []) => (w, [])
  | (w, e :: pending) => ((w.visit d e).1, (w.visit d e).2 ++ pending)

section Turns

variable {d : Diagram} {w₀ w : Walk} {p₀ expanded pending : List Element}

/-- Every turn uses up a pending element or a flow that was not followed yet. -/
theorem exists_turns_eq_run (d : Diagram) (w : Walk) (pending : List Element) :
    ∃ n ≤ unfollowed d w + pending.length, (turn d)^[n] (w, pending) = (run d w pending, []) := by
  fun_induction run d w pending with
  | case1 w => exact ⟨0, Nat.zero_le _, rfl⟩
  | case2 w e pending ih =>
    obtain ⟨n, bound, ended⟩ := ih
    refine ⟨n + 1, ?_, by rw [Function.iterate_succ_apply]; exact ended⟩
    have used := unfollowed_visit d w e
    rw [List.length_append] at bound
    rw [List.length_cons]
    omega

theorem exists_course_of_turns (d : Diagram) (w : Walk) (pending : List Element) (n : Nat) :
    ∃ expanded, Course d w pending expanded ((turn d)^[n] (w, pending)).1 ((turn d)^[n] (w, pending)).2 := by
  induction n with
  | zero => exact ⟨[], .start⟩
  | succ n ih =>
    obtain ⟨expanded, course⟩ := ih
    rw [Function.iterate_succ_apply']
    rcases state : (turn d)^[n] (w, pending) with ⟨v, _ | ⟨e, rest⟩⟩
    · rw [state] at course
      exact ⟨expanded, course⟩
    · rw [state] at course
      exact ⟨expanded ++ v.expands e, course.visit⟩

theorem expanded_settled_nodup (initial : Ordered w₀.bypassed) (course : Course d w₀ p₀ expanded w pending) :
    (expanded.map Element.id).Nodup ∧ ∀ e ∈ expanded, w.isSettled e.id = true := by
  refine course.preserves
    (P := fun expanded w _ => (expanded.map Element.id).Nodup ∧ ∀ e ∈ expanded, w.isSettled e.id = true)
    initial (by simp) ?_
  rintro expanded w e pending new w' next _ outcome ⟨nodup, settled⟩
  constructor
  · rw [List.map_append, List.nodup_append]
    refine ⟨nodup, ?_, ?_⟩
    · rcases new with _ | ⟨x, rest⟩
      · simp
      · rw [(outcome.settles List.mem_cons_self).1]
        simp
    · intro a before b after
      obtain ⟨x, member, rfl⟩ := List.mem_map.mp before
      obtain ⟨y, added, rfl⟩ := List.mem_map.mp after
      obtain ⟨_, rfl, fresh, _⟩ := outcome.settles added
      intro same
      have known := settled x member
      rw [same, fresh] at known
      cases known
  · intro x member
    rcases List.mem_append.mp member with old | added
    · exact outcome.isSettled (settled x old)
    · obtain ⟨_, rfl, _, known⟩ := outcome.settles added
      exact known

end Turns

theorem unfollowed_le (d : Diagram) (w : Walk) : unfollowed d w ≤ d.flows.length := List.countP_le_length

/-- Walks end on every diagram and from every element, and so do the searches on their way. -/
theorem walk_ends (d : Diagram) (name : String) (entry : Element) (diagnostics : Diagnostics) :
    (∃ n ≤ d.flows.length + 1, (turn d)^[n] (start name entry diagnostics, [entry]) =
      (run d (start name entry diagnostics) [entry], [])) ∧
    (∀ n gateway target, let w := ((turn d)^[n] (start name entry diagnostics, [entry])).1
      Chases w gateway target (w.finalReplacement? gateway target)) ∧
    ((expansions d (start name entry diagnostics) [entry]).map Element.id).Nodup := by
  refine ⟨?_, ?_, ?_⟩
  · obtain ⟨n, bound, ended⟩ := exists_turns_eq_run d (start name entry diagnostics) [entry]
    have few := unfollowed_le d (start name entry diagnostics)
    rw [List.length_singleton] at bound
    exact ⟨n, by omega, ended⟩
  · intro n gateway target
    exact chases_finalReplacement? _ gateway target
  · exact (expanded_settled_nodup ordered_nil (course_run d (start name entry diagnostics) [entry])).1

end Walk

end BpmnWorkflow
