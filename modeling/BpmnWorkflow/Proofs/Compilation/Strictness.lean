import BpmnWorkflow.Proofs.Compilation.Tally
import BpmnWorkflow.Proofs.Diagram.Entry

/-!
# Strictness

Strict or not, a compilation does the same work and reports the same. The verdict is by what the diagnostics keep of the
warnings for themselves, from the entry over the walk to the validation, and agrees with the report: `compile_strictness`.
-/

namespace BpmnWorkflow

namespace Diagram

theorem notices_of_strict (d : Diagram) (options : CompileOptions) (strict : Bool) :
    (d.compile { options with strict := strict }).notices = (d.compile options).notices := by
  rw [compile, compile]
  rcases Entry.resolve d with ⟨_ | entry, diagnostics⟩ <;> rfl

/--
Strict compilation differs from lenient compilation in its verdict only: the reports are the same, and so are the
diagrams without an entry. Any other diagram has a workflow, which the lenient compilation gives; the strict one
refuses it just in case a warning was delivered, with the number of those that were and the first of them. For after
every phase the count and the first warning that are kept are those of the warnings that were delivered.
-/
theorem compile_strictness (d : Diagram) (options : CompileOptions) :
    let strict := d.compile { options with strict := true }
    let lenient := d.compile { options with strict := false }
    strict.notices = lenient.notices ∧ strict.warnings = lenient.warnings ∧
    ((Entry.resolve d).2.Agrees ∧ ∀ entry diagnostics, Entry.resolve d = (some entry, diagnostics) →
      (d.walk options.name entry diagnostics).Agrees ∧
      (Compilation.validate (d.walk options.name entry diagnostics)).Agrees) ∧
    (strict.result = .error .noEntryPoint ↔ lenient.result = .error .noEntryPoint) ∧
    (lenient.result = .error .noEntryPoint ∨ ∃ w, lenient.result = .ok w ∧
      (strict.warnings = [] ∧ strict.result = .ok w ∨ ∃ first rest, strict.warnings = first :: rest ∧
        strict.result = .error (.strictWarnings strict.warnings.length first.text))) := by
  intro strict lenient
  have same : strict.notices = lenient.notices :=
    (notices_of_strict d options true).trans (notices_of_strict d options false).symm
  have refused (strictly : Bool) : (d.compile { options with strict := strictly }).result = .error .noEntryPoint ↔
      (Entry.resolve d).1 = none := compile_eq_noEntryPoint_iff d _
  refine ⟨same, congrArg Notice.warnings same, ⟨Entry.agrees_resolve d, ?_⟩,
    (refused true).trans (refused false).symm, ?_⟩
  · intro entry diagnostics resolved
    have entered : diagnostics.Agrees := by
      have agrees := Entry.agrees_resolve d
      rwa [resolved] at agrees
    have walked := agrees_walk entered d options.name entry
    exact ⟨walked, Compilation.agrees_validate walked⟩
  by_cases entered : (Entry.resolve d).1 = none
  · exact .inl ((refused false).mpr entered)
  obtain ⟨finished, agrees, decided⟩ := exists_finished options entered
  have given : lenient.result = .ok finished.workflow := congrArg Compilation.result (decided false)
  have reported : strict.result = Compilation.verdict true finished.workflow finished.diagnostics ∧
      strict.warnings = finished.diagnostics.warnings := by
    unfold strict
    rw [decided true]
    exact ⟨rfl, rfl⟩
  refine .inr ⟨finished.workflow, given, ?_⟩
  rw [reported.1, reported.2]
  cases warned : finished.diagnostics.warnings with
  | nil => exact .inl ⟨rfl, Compilation.verdict_of_quiet agrees warned true _⟩
  | cons first rest => exact .inr ⟨first, rest, rfl, Compilation.verdict_of_warned agrees warned _⟩

end Diagram

end BpmnWorkflow
