import BpmnWorkflow.Proofs.Walk.Termination
import BpmnWorkflow.Proofs.Walk.Trace

/-!
# Walks go in pre-order

`descend` is the plain recursion: visit an element, then descend from everything that the visit leads
to, one after another, each with the walk that the one before has left. `run_cons` says that a list of
pending elements does the same, whatever else is pending, and `keys_run` in which order steps come in.
-/

namespace BpmnWorkflow

namespace Walk

mutual

/-- The walk after the descent from `e`, and the elements that it has expanded, in order. -/
def descend (d : Diagram) (w : Walk) (e : Element) :
    { below : Walk × List Element // unfollowed d below.1 ≤ unfollowed d w } :=
  have used := unfollowed_visit d w e
  let below := descendAll d (w.visit d e).1 (w.visit d e).2
  ⟨(below.1.1, w.expands e ++ below.1.2), Nat.le_trans below.2 (by omega)⟩
termination_by 2 * unfollowed d w + 1

def descendAll (d : Diagram) (w : Walk) : List Element →
    { below : Walk × List Element // unfollowed d below.1 ≤ unfollowed d w }
  | [] => ⟨(w, []), Nat.le_refl _⟩
  | e :: rest =>
    have used := (descend d w e).2
    let others := descendAll d (descend d w e).1.1 rest
    ⟨(others.1.1, (descend d w e).1.2 ++ others.1.2), Nat.le_trans others.2 used⟩
termination_by pending => 2 * (unfollowed d w + pending.length)
decreasing_by
  · simp only [List.length_cons]
    omega
  · simp only [List.length_cons]
    omega

end

def preorder (d : Diagram) (w : Walk) (e : Element) : Walk × List Element := (descend d w e).1

/-- The recursion itself: the visited element, then what it leads to in order, over one shared walk. -/
theorem preorder_eq (d : Diagram) (w : Walk) (e : Element) :
    preorder d w e = (w.visit d e).2.foldl
      (fun done x => ((preorder d done.1 x).1, done.2 ++ (preorder d done.1 x).2)) ((w.visit d e).1, w.expands e) := by
  have all : ∀ pending w log, pending.foldl (fun done x => ((preorder d done.1 x).1, done.2 ++ (preorder d done.1 x).2))
      (w, log) = ((descendAll d w pending).1.1, log ++ (descendAll d w pending).1.2) := by
    intro pending
    induction pending with
    | nil => intro w log; rw [descendAll]; simp
    | cons e rest ih =>
      intro w log
      rw [List.foldl_cons, ih, descendAll]
      simp [preorder]
  rw [all, preorder, descend]

mutual

theorem run_cons (d : Diagram) (w : Walk) (e : Element) (rest : List Element) :
    run d w (e :: rest) = run d (preorder d w e).1 rest ∧
      expansions d w (e :: rest) = (preorder d w e).2 ++ expansions d (preorder d w e).1 rest := by
  have used := unfollowed_visit d w e
  obtain ⟨walks, expands⟩ := run_append d (w.visit d e).1 (w.visit d e).2 rest
  rw [run, expansions, walks, expands, preorder, descend, List.append_assoc]
  exact ⟨rfl, rfl⟩
termination_by 2 * unfollowed d w + 1

/-- Whatever else is pending, the first elements are dealt with as if they were alone. -/
theorem run_append (d : Diagram) (w : Walk) (pending rest : List Element) :
    run d w (pending ++ rest) = run d (descendAll d w pending).1.1 rest ∧
      expansions d w (pending ++ rest) =
        (descendAll d w pending).1.2 ++ expansions d (descendAll d w pending).1.1 rest := by
  match pending with
  | [] =>
    rw [descendAll]
    exact ⟨rfl, rfl⟩
  | e :: pending =>
    have used := (descend d w e).2
    obtain ⟨first, expanded⟩ := run_cons d w e (pending ++ rest)
    obtain ⟨others, expands⟩ := run_append d (preorder d w e).1 pending rest
    rw [List.cons_append, first, expanded, others, expands, descendAll, List.append_assoc]
    exact ⟨rfl, rfl⟩
termination_by 2 * (unfollowed d w + pending.length)
decreasing_by
  · simp only [List.length_cons]
    omega
  · simp only [List.length_cons, preorder]
    omega

end

theorem run_singleton (d : Diagram) (w : Walk) (e : Element) :
    run d w [e] = (preorder d w e).1 ∧ expansions d w [e] = (preorder d w e).2 := by
  obtain ⟨walks, expands⟩ := run_cons d w e []
  rw [run] at walks
  rw [expansions, List.append_nil] at expands
  exact ⟨walks, expands⟩

/-! ### A stack with its top at the end -/

/-- One turn with a stack: the top is popped and visited, and what it leads to is pushed in reverse. -/
def stackTurn (d : Diagram) (state : Walk × List Element) : Walk × List Element :=
  match state.2.getLast? with
  | none => state
  | some e => ((state.1.visit d e).1, state.2.dropLast ++ (state.1.visit d e).2.reverse)

theorem stackTurn_reverse (d : Diagram) : Function.Semiconj
    (fun state : Walk × List Element => (state.1, state.2.reverse)) (turn d) (stackTurn d) := by
  rintro ⟨w, _ | ⟨e, pending⟩⟩
  · rfl
  · simp [stackTurn, turn]

theorem exists_stackTurns (d : Diagram) (w : Walk) (e : Element) :
    ∃ n, (stackTurn d)^[n] (w, [e]) = (run d w [e], []) := by
  obtain ⟨n, _, ended⟩ := exists_turns_eq_run d w [e]
  refine ⟨n, ?_⟩
  have mirrored := (stackTurn_reverse d).iterate_right n (w, [e])
  rw [ended] at mirrored
  exact mirrored.symm

/-! ### The order of steps -/

/-- The keys of the steps once `e` is expanded: none for a bypassed gateway, and a new end before its task. -/
def insertKeys (d : Diagram) (gateways keys : List String) (e : Element) : List String :=
  if e.id ∈ gateways then keys
  else if d.IsIdleTask e ∧ syntheticEndId e.id ∉ keys then keys ++ [syntheticEndId e.id, e.id]
  else keys ++ [e.id]

section Keys

variable {d : Diagram} {w w' : Walk} {e : Element} {expanded new next : List Element}

theorem Outcome.keys_eq (outcome : Outcome d w e new w' next) :
    w'.workflow.steps.keys = new.foldl (insertKeys d w'.gateways) w.workflow.steps.keys := by
  cases outcome with
  | registered => rfl
  | again _ _ workflow _ =>
    rw [workflow, Workflow.keys_redirect]
    rfl
  | bypassed _ _ _ workflow bypassed =>
    have known : e.id ∈ w'.gateways := (mem_gateways_snoc bypassed).mpr (.inr rfl)
    rw [workflow, Workflow.keys_redirect, List.foldl_cons, insertKeys, if_pos known]
    rfl
  | ring fresh passes _ workflow bypassed =>
    obtain ⟨unregistered, unbypassed⟩ := isSettled_eq_false_iff.mp fresh
    have busy : ¬ d.IsIdleTask e := fun idle => Diagram.not_isBypass_of_isTask idle.1 passes.isBypass
    rw [workflow, Workflow.keys_insertStep_of_fresh unregistered, List.foldl_cons, insertKeys,
      gateways_of_bypassed_eq bypassed, if_neg unbypassed, if_neg fun h => busy h.1]
    rfl
  | built fresh _ busy workflow bypassed =>
    obtain ⟨unregistered, unbypassed⟩ := isSettled_eq_false_iff.mp fresh
    rw [workflow, Workflow.keys_insertStep_of_fresh unregistered, List.foldl_cons, insertKeys,
      gateways_of_bypassed_eq bypassed, if_neg unbypassed, if_neg fun h => busy h.1]
    rfl
  | dangling fresh idle workflow bypassed =>
    obtain ⟨_, unbypassed⟩ := isSettled_eq_false_iff.mp fresh
    rw [workflow, Workflow.keys_insertStep_of_fresh (notMem_keys_addStep_end fresh _), List.foldl_cons, insertKeys,
      gateways_of_bypassed_eq bypassed, if_neg unbypassed]
    by_cases taken : syntheticEndId e.id ∈ w.workflow.steps.keys
    · rw [if_neg fun h => h.2 taken, Workflow.addStep, if_pos (OrderedMap.contains_iff.mpr taken)]
      rfl
    · rw [if_pos ⟨idle, taken⟩, Workflow.addStep_of_fresh taken, Workflow.keys_insertStep_of_fresh taken,
        List.append_assoc]
      rfl

theorem Outcome.foldl_insertKeys (outcome : Outcome d w e new w' next)
    (settled : ∀ x ∈ expanded, w.isSettled x.id = true) :
    expanded.foldl (insertKeys d w'.gateways) [] = expanded.foldl (insertKeys d w.gateways) [] := by
  refine List.foldl_ext _ _ _ fun keys x member => ?_
  have same : x.id ∈ w'.gateways ↔ x.id ∈ w.gateways := by
    refine ⟨fun later => ?_, outcome.mem_gateways⟩
    -- what is expanded but not bypassed has a step, and what has a step is never bypassed
    by_contra unbypassed
    have known := (isSettled_iff.mp (settled x member)).resolve_right unbypassed
    exact outcome.notMem_gateways known unbypassed later
  rw [insertKeys, insertKeys]
  simp only [same]

theorem keys_run (d : Diagram) (name : String) (entry : Element) (diagnostics : Diagnostics) :
    (run d (start name entry diagnostics) [entry]).workflow.steps.keys =
      (expansions d (start name entry diagnostics) [entry]).foldl
        (insertKeys d (run d (start name entry diagnostics) [entry]).gateways) [] := by
  -- it is settled at once whether an expanded element is bypassed, so the final gateways tell it as well
  refine ((course_run d (start name entry diagnostics) [entry]).preserves
    (P := fun expanded w _ => (∀ x ∈ expanded, w.isSettled x.id = true) ∧
      w.workflow.steps.keys = expanded.foldl (insertKeys d w.gateways) []) ordered_nil ⟨by simp, rfl⟩ ?_).2
  rintro expanded w e pending new w' next _ outcome ⟨settled, keys⟩
  constructor
  · intro x member
    rcases List.mem_append.mp member with old | added
    · exact outcome.isSettled (settled x old)
    · obtain ⟨_, rfl, _, known⟩ := outcome.settles added
      exact known
  · rw [List.foldl_append, outcome.foldl_insertKeys settled, ← keys]
    exact outcome.keys_eq

end Keys

/--
Visiting what is on top of a stack, and pushing in reverse what it leads to, comes to an end in the
very walk of the recursion; it expands the same elements in the same order, and that is the order in
which steps come in, an end that is added right before its task.
-/
theorem walk_is_preorder (d : Diagram) (name : String) (entry : Element) (diagnostics : Diagnostics) :
    let w := start name entry diagnostics
    (∃ n, (stackTurn d)^[n] (w, [entry]) = ((preorder d w entry).1, [])) ∧
    run d w [entry] = (preorder d w entry).1 ∧
    expansions d w [entry] = (preorder d w entry).2 ∧
    (run d w [entry]).workflow.steps.keys =
      (preorder d w entry).2.foldl (insertKeys d (run d w [entry]).gateways) [] := by
  intro w
  obtain ⟨walks, expands⟩ := run_singleton d w entry
  refine ⟨?_, walks, expands, ?_⟩
  · rw [← walks]
    exact exists_stackTurns d w entry
  · rw [← expands]
    exact keys_run d name entry diagnostics

end Walk

end BpmnWorkflow
