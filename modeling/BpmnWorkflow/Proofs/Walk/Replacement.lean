import BpmnWorkflow.Proofs.Walk.Termination

/-!
# Chains of replacements

A bypassed gateway leads on to its replacement, which may be bypassed in its turn. In every state of
a walk these chains end and none comes back to where it started, so the search for the end of a chain
finds it: `chains_resolved`. A visit to a bypassed gateway redirects to that end, never to a
replacement that is bypassed by then.
-/

namespace BpmnWorkflow

open Relation (ReflTransGen TransGen)

namespace Walk

theorem visit_of_bypassed {w : Walk} {e : Element} {next last : String} (d : Diagram)
    (unregistered : e.id ∉ w.workflow.steps.keys)
    (replaced : w.ReplacedBy e.id next) (found : w.finalReplacement? e.id next = some last) :
    w.visit d e = (w.redirect e.id last, []) := by
  have replaced : w.replacement? e.id = some next := replaced
  unfold visit
  rw [if_neg (fun registered => unregistered (isRegistered_iff.mp registered)), replaced]
  show (w.redirect e.id ((w.finalReplacement? e.id next).getD next), []) = _
  rw [found, Option.getD_some]

/--
In every state of a walk, each chain of replacements ends at one identifier that is not bypassed, and none is a ring.
The search that follows a chain step by step comes to an end: without a result just where the chain meets the gateway,
and otherwise with the end of the chain. From the replacement of a bypassed gateway it always has a result, so a visit
to the gateway redirects to the end of its chain.
-/
theorem chains_resolved (d : Diagram) (name : String) (entry : Element) (diagnostics : Diagnostics) (n : Nat) :
    let w := ((turn d)^[n] (start name entry diagnostics, [entry])).1
    (∀ id, ∃! last, ReflTransGen w.ReplacedBy id last ∧ w.replacement? last = none) ∧
    (∀ id, ¬ TransGen w.ReplacedBy id id) ∧
    (∀ gateway target, Chases w gateway target (w.finalReplacement? gateway target) ∧
      (w.finalReplacement? gateway target = none ↔ ReflTransGen w.ReplacedBy target gateway) ∧
      ∀ last, w.finalReplacement? gateway target = some last →
        ReflTransGen w.ReplacedBy target last ∧ w.replacement? last = none ∧ last ≠ gateway) ∧
    ∀ e replacement, e.id ∉ w.workflow.steps.keys → w.ReplacedBy e.id replacement →
      ∃ last, w.finalReplacement? e.id replacement = some last ∧ ReflTransGen w.ReplacedBy e.id last ∧
        w.visit d e = (w.redirect e.id last, []) ∧ (w.visit d e).1.replacement? last = none ∧
        (w.visit d e).1.workflow.references = w.workflow.references.map fun r => if r = e.id then last else r := by
  intro w
  obtain ⟨_, course⟩ := exists_course_of_turns d (start name entry diagnostics) [entry] n
  have ordered : Ordered w.bypassed := course.ordered ordered_nil
  have chases := chases_finalReplacement? w
  refine ⟨?_, ?_, ?_, ?_⟩
  · intro id
    have ends := endsAt_terminus ordered id
    refine ⟨terminus w.bypassed id, endsAt_iff.mp ends, ?_⟩
    intro last ended
    exact (endsAt_iff.mpr ended).unique ends
  · intro id
    exact acyclic w id
  · intro gateway target
    refine ⟨chases gateway target, (chases gateway target).eq_none_iff, ?_⟩
    intro last found
    have chases := found ▸ chases gateway target
    obtain ⟨chain, ended⟩ := endsAt_iff.mp chases.endsAt
    exact ⟨chain, ended, chases.ne_gateway⟩
  · intro e replacement unregistered replaced
    have found := finalReplacement?_of_replacedBy ordered replaced
    have visited := visit_of_bypassed d unregistered replaced found
    obtain ⟨chain, ended⟩ := endsAt_iff.mp (endsAt_terminus ordered e.id)
    refine ⟨terminus w.bypassed e.id, found, chain, visited, ?_, ?_⟩
    · rw [visited]
      exact ended
    · rw [visited, workflow_redirect]
      exact Workflow.references_redirect w.workflow e.id _

def fork : Element := ⟨"C", none, .exclusiveGateway, none⟩

def passage : Element := ⟨"G", none, .exclusiveGateway, none⟩

/-- The gateway `G` leads through the gateway `H` to `X`, and both branches of the fork lead to `G`. -/
def detour : Diagram := .ofParts [
  .element fork, .element ⟨"A", none, .task, none⟩, .element ⟨"B", none, .task, none⟩, .element passage,
  .element ⟨"H", none, .exclusiveGateway, none⟩, .element ⟨"X", none, .endEvent, none⟩,
  .flow ⟨none, some "left", "C", "A"⟩, .flow ⟨none, some "right", "C", "B"⟩, .flow ⟨none, none, "A", "G"⟩,
  .flow ⟨none, none, "B", "G"⟩, .flow ⟨none, none, "G", "H"⟩, .flow ⟨none, none, "H", "X"⟩]

/-- The walk before it comes to `G` again: `H` replaced `G` and is bypassed by now. -/
def detoured : Walk := ((turn detour)^[6] (start "detour" fork {}, [fork])).1

theorem detour_resolved : "G" ∉ detoured.workflow.steps.keys ∧
    detoured.ReplacedBy "G" "H" ∧ detoured.ReplacedBy "H" "X" ∧
    detoured.finalReplacement? "G" "H" = some "X" ∧ ReflTransGen detoured.ReplacedBy "G" "X" ∧
    detoured.visit detour passage = (detoured.redirect "G" "X", []) ∧
    (detoured.visit detour passage).1.workflow.references = ["C", "A", "B", "X", "X"] := by
  have keys : detoured.workflow.steps.keys = ["C", "A", "X", "B"] := by cbv
  have before : detoured.workflow.references = ["C", "A", "B", "X", "G"] := by cbv
  have bypassed : detoured.bypassed = [("G", "H"), ("H", "X")] := by cbv
  have replaced : detoured.replacement? "G" = some "H" := by
    rw [replacement?, bypassed]
    rfl
  have outdated : detoured.replacement? "H" = some "X" := by
    rw [replacement?, bypassed]
    rfl
  have found : detoured.finalReplacement? "G" "H" = some "X" := by cbv
  have unregistered : "G" ∉ detoured.workflow.steps.keys := by
    rw [keys]
    decide
  obtain ⟨_, _, _, visits⟩ := chains_resolved detour "detour" fork {} 6
  obtain ⟨last, ends, chain, visited, _, references⟩ := visits passage "H" unregistered replaced
  obtain rfl : "X" = last := Option.some.inj (found.symm.trans ends)
  refine ⟨unregistered, replaced, outdated, found, chain, visited, ?_⟩
  exact references.trans (congrArg (List.map _) before)

end Walk

end BpmnWorkflow
