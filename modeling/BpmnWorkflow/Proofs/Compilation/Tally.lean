import BpmnWorkflow.Compilation.Basic

/-!
# The tally of the warnings

From the entry over the walk to the validation, what the diagnostics keep for themselves agrees with what they have
delivered: `Entry.agrees_resolve`, `Walk.agrees_run` and `Compilation.agrees_validate`. So a verdict by the one is a
verdict by the other: `Compilation.verdict_of_warned`.
-/

namespace BpmnWorkflow

namespace Entry

variable {d : Diagram} {s : Diagnostics}

theorem agrees_ofStart (agrees : s.Agrees) (start : Element) : (ofStart d start s).2.Agrees := by
  have warned := agrees.warnAll ((d.deadFlows start.id ElementKind.isTaskLike).map .unresolvedFlow)
  rw [ofStart]
  rcases d.liveFlows start.id ElementKind.isTaskLike with _ | ⟨flow, _ | ⟨second, rest⟩⟩
  · exact warned.warn _
  · exact warned.note rfl
  · exact (warned.warn _).note rfl

theorem agrees_choose (agrees : s.Agrees) (starts : List Element) : (choose d starts s).2.Agrees := by
  induction starts generalizing s with
  | nil => exact agrees
  | cons start rest ih =>
    have reported : (ofStart d start s).2.Agrees := agrees_ofStart agrees start
    rw [choose]
    generalize ofStart d start s = offer at reported ⊢
    obtain ⟨_ | entry, offered⟩ := offer
    · exact ih reported
    · exact reported.warnAll _

theorem agrees_resolve (d : Diagram) : (resolve d).2.Agrees := agrees_choose Diagnostics.agrees_empty _

end Entry

namespace Walk

def Agrees (w : Walk) : Prop := w.diagnostics.Agrees

variable {d : Diagram} {w : Walk}

theorem Agrees.note (agrees : w.Agrees) {n : Notice} (silent : n.warning? = none) : (w.note n).Agrees :=
  Diagnostics.Agrees.note agrees silent

theorem Agrees.warn (agrees : w.Agrees) (warning : Warning) : (w.warn warning).Agrees :=
  Diagnostics.Agrees.warn agrees warning

theorem Agrees.warnAll (agrees : w.Agrees) (warnings : List Warning) : (w.warnAll warnings).Agrees :=
  Diagnostics.Agrees.warnAll agrees warnings

theorem Agrees.register (agrees : w.Agrees) (id : String) (step : Step) : (w.register id step).Agrees := by
  unfold Walk.register
  split
  · exact agrees.note rfl
  · exact agrees

theorem Agrees.redirect (agrees : w.Agrees) (source target : String) : (w.redirect source target).Agrees :=
  Diagnostics.Agrees.note agrees rfl

theorem Agrees.bypass (agrees : w.Agrees) {gateway target replacement : String}
    (found : w.finalReplacement? gateway target = some replacement) : (w.bypass found).Agrees :=
  Diagnostics.Agrees.note agrees rfl

theorem agrees_addTask (agrees : w.Agrees) (e : Element) (live : List LiveFlow) : (w.addTask e live).1.Agrees := by
  rcases live with _ | ⟨first, _ | ⟨second, rest⟩⟩
  · exact ((agrees.warn _).register _ _).register _ _
  · exact agrees.register _ _
  · exact (agrees.warn _).register _ _

theorem agrees_skipGateway (agrees : w.Agrees) (gateway successor : Element) :
    (w.skipGateway gateway successor).1.Agrees := by
  cases found : (w.warn (.bypassedGateway gateway.id)).finalReplacement? gateway.id successor.id with
  | none =>
    rw [skipGateway_of_none found]
    exact ((agrees.warn _).warn _).register _ _
  | some replacement =>
    rw [skipGateway_of_some found]
    exact (agrees.warn _).bypass found

theorem agrees_addGateway (agrees : w.Agrees) (e : Element) (live : List LiveFlow) :
    (w.addGateway e live).1.Agrees := by
  rcases live with _ | ⟨only, _ | ⟨second, rest⟩⟩
  · exact (agrees.warn _).register _ _
  · exact agrees_skipGateway agrees e only.target
  · exact agrees.register _ _

theorem agrees_expand (agrees : w.Agrees) (e : Element) : (w.expand d e).1.Agrees := by
  have entered (kind : ElementKind) : ((w.note (.visiting e.id kind)).warnAll
      ((d.deadFlows e.id ElementKind.isFlowTarget).map .unresolvedFlow)).Agrees := (agrees.note rfl).warnAll _
  unfold expand
  cases e.kind with
  | exclusiveGateway => exact agrees_addGateway (entered _) e _
  | endEvent => exact (entered _).register _ _
  | startEvent | task | userTask | serviceTask => exact agrees_addTask (entered _) e _

theorem agrees_visit (agrees : w.Agrees) (e : Element) : (w.visit d e).1.Agrees := by
  unfold visit
  split
  · exact agrees
  · cases w.replacement? e.id with
    | some replacement => exact agrees.redirect _ _
    | none => exact agrees_expand agrees e

theorem agrees_run (agrees : w.Agrees) (pending : List Element) : (run d w pending).Agrees := by
  fun_induction run d w pending with
  | case1 w => exact agrees
  | case2 w e pending ih => exact ih (agrees_visit agrees e)

end Walk

namespace Diagram

theorem agrees_walk {diagnostics : Diagnostics} (agrees : diagnostics.Agrees) (d : Diagram) (name : String)
    (entry : Entry) : (d.walk name entry diagnostics).Agrees := by
  have started : (Walk.start name entry.first diagnostics).Agrees := agrees
  exact Walk.agrees_run started [entry.first]

end Diagram

namespace Compilation

variable {w : Workflow} {s : Diagnostics}

theorem agrees_validate {walk : Walk} (agrees : walk.Agrees) : (validate walk).Agrees := agrees.warnAll _

/-- Where nothing was warned about, strictness makes no difference. -/
theorem verdict_of_quiet (agrees : s.Agrees) (quiet : s.warnings = []) (strict : Bool) (w : Workflow) :
    verdict strict w s = .ok w := by
  have none : s.count = 0 := by rw [agrees.count_eq, quiet, List.length_nil]
  rw [verdict, none]
  cases strict <;> rfl

/-- Where something was, the strict verdict names the number and the first of what was delivered. -/
theorem verdict_of_warned {first : Warning} {rest : List Warning} (agrees : s.Agrees)
    (warned : s.warnings = first :: rest) (w : Workflow) :
    verdict true w s = .error (.strictWarnings (first :: rest).length first.text) := by
  have counted : s.count = (first :: rest).length := by rw [agrees.count_eq, warned]
  have kept : s.firstText = first.text := by
    rw [Diagnostics.firstText, agrees.first?_eq, warned]
    rfl
  rw [verdict, counted, kept]
  rfl

end Compilation

namespace Diagram

/-- Where there is an entry, the walk is finished in one way, and strictness only gives the verdict on it. -/
theorem exists_finished {d : Diagram} (options : CompileOptions) (entered : (Entry.resolve d).1 ≠ none) :
    ∃ finished : Walk, finished.Agrees ∧ ∀ strict, d.compile { options with strict := strict } =
      ⟨Compilation.verdict strict finished.workflow finished.diagnostics, finished.notices⟩ := by
  have agrees := Entry.agrees_resolve d
  unfold compile
  generalize Entry.resolve d = resolved at agrees entered ⊢
  obtain ⟨_ | entry, diagnostics⟩ := resolved
  · exact (entered rfl).elim
  · let checked := if options.validate then Compilation.validate (d.walk options.name entry diagnostics)
      else d.walk options.name entry diagnostics
    have walked : (d.walk options.name entry diagnostics).Agrees := agrees_walk agrees d options.name entry
    have kept : checked.Agrees := by
      unfold checked
      split
      · exact Compilation.agrees_validate walked
      · exact walked
    exact ⟨checked.note (.compiled checked.workflow.name entry.start.id checked.workflow.size checked.diagnostics.count),
      kept.note rfl, fun _ => rfl⟩

theorem result_strict {d : Diagram} (options : CompileOptions) (entered : (Entry.resolve d).1 ≠ none) :
    (∃ w, (d.compile { options with strict := true }).result = .ok w) ↔ (d.compile options).warnings = [] := by
  obtain ⟨finished, agrees, decided⟩ := exists_finished options entered
  have reported : (d.compile options).warnings = finished.diagnostics.warnings :=
    congrArg Compilation.warnings (decided options.strict)
  rw [reported, decided true]
  cases warned : finished.diagnostics.warnings with
  | nil => exact iff_of_true ⟨_, Compilation.verdict_of_quiet agrees warned true _⟩ rfl
  | cons first rest =>
    refine iff_of_false ?_ (List.cons_ne_nil _ _)
    rintro ⟨w, accepted⟩
    cases accepted.symm.trans (Compilation.verdict_of_warned agrees warned _)

end Diagram

end BpmnWorkflow
