import BpmnWorkflow.Proofs.Diagram.Lookup
import BpmnWorkflow.Proofs.Diagram.Parts
import BpmnWorkflow.Proofs.Walk.Warnings

/-!
# The entry of a diagram

`Resolution` says which start event is chosen, which element it leads to and what is warned about, by
scans over the tables of a diagram. `resolution_resolve` says that the search for the entry does just
that; `entry_resolution` draws the conclusion for documents.
-/

namespace BpmnWorkflow

namespace Diagram

/-- The target of the flow is exactly one task or gateway. -/
def LeadsIn (d : Diagram) (f : Flow) : Prop := (d.named f.target ElementKind.isTaskLike).length = 1

instance (d : Diagram) (f : Flow) : Decidable (d.LeadsIn f) := inferInstanceAs (Decidable (_ = 1))

/-- A start event with a flow to exactly one task or gateway. -/
def Usable (d : Diagram) (start : Element) : Prop := ∃ f ∈ d.flowsFrom start.id, d.LeadsIn f

def lookupWarning (d : Diagram) (f : Flow) : Warning :=
  .unresolvedFlow (d.lookupFailure f.target ElementKind.isTaskLike)

def idleReport (d : Diagram) (start : Element) : List Warning :=
  (d.flowsFrom start.id).map d.lookupWarning ++ [.idleStart start.id]

def entryReport (d : Diagram) (start : Element) : List Warning :=
  ((d.flowsFrom start.id).filter (¬ d.LeadsIn ·)).map d.lookupWarning ++
    if 2 ≤ (d.flowsFrom start.id).countP (d.LeadsIn ·) then [.crowdedStart start.id] else []

/-- What is found from these start events, and what is warned about. -/
inductive Resolution (d : Diagram) : List Element → Option Entry → List Warning → Prop
  | failed {starts : List Element} (idle : ∀ s ∈ starts, ¬ d.Usable s) :
      Resolution d starts none (starts.flatMap d.idleReport)
  | chosen {before after : List Element} {start first : Element} {dead later : List Flow} {flow : Flow}
      (idle : ∀ s ∈ before, ¬ d.Usable s) (flows : d.flowsFrom start.id = dead ++ flow :: later)
      (skipped : ∀ f ∈ dead, ¬ d.LeadsIn f) (leads : d.named flow.target ElementKind.isTaskLike = [first]) :
      Resolution d (before ++ start :: after) (some ⟨start, first⟩)
        (before.flatMap d.idleReport ++ d.entryReport start ++
          after.map fun s => .extraStart start.id s.id)

/-! ### Live flows into the workflow -/

section LeadsIn

variable {d : Diagram} {f : Flow} {start first : Element} {id : String}

theorem leadsIn_iff : d.LeadsIn f ↔ ∃ x, d.named f.target ElementKind.isTaskLike = [x] := List.length_eq_one_iff

theorem resolve_of_not_leadsIn (dead : ¬ d.LeadsIn f) :
    d.resolve f.target ElementKind.isTaskLike = .error (d.lookupFailure f.target ElementKind.isTaskLike) :=
  resolve_eq_error fun x only => dead (leadsIn_iff.mpr ⟨x, only⟩)

theorem deadFlows_of_ne_empty (d : Diagram) (given : id ≠ "") :
    (d.deadFlows id ElementKind.isTaskLike).map Warning.unresolvedFlow =
      ((d.flowsFrom id).filter (¬ d.LeadsIn ·)).map d.lookupWarning := by
  rw [deadFlows, outgoing_of_ne_empty d given]
  induction d.flowsFrom id with
  | nil => rfl
  | cons f rest ih =>
    rw [List.filterMap_cons, List.filter_cons]
    by_cases leads : d.LeadsIn f
    · obtain ⟨x, only⟩ := leadsIn_iff.mp leads
      rw [resolve_eq_ok_iff.mpr only, if_neg (by simpa using leads), ← ih]
    · rw [resolve_of_not_leadsIn leads, if_pos (by simpa using leads), List.map_cons, List.map_cons, ih]
      rfl

theorem length_liveFlows_of_ne_empty (d : Diagram) (given : id ≠ "") :
    (d.liveFlows id ElementKind.isTaskLike).length = (d.flowsFrom id).countP (d.LeadsIn ·) := by
  rw [liveFlows, outgoing_of_ne_empty d given]
  induction d.flowsFrom id with
  | nil => rfl
  | cons f rest ih =>
    rw [List.filterMap_cons, List.countP_cons, ← ih]
    by_cases leads : d.LeadsIn f
    · obtain ⟨x, only⟩ := leadsIn_iff.mp leads
      rw [resolve_eq_ok_iff.mpr only, if_pos (by simpa using leads), List.length_cons]
    · rw [resolve_of_not_leadsIn leads, if_neg (by simpa using leads), Nat.add_zero]

theorem usable_iff (given : start.id ≠ "") :
    d.Usable start ↔ d.liveFlows start.id ElementKind.isTaskLike ≠ [] := by
  rw [← List.length_pos_iff, length_liveFlows_of_ne_empty d given, List.countP_pos_iff, Usable]
  simp only [decide_eq_true_eq]

theorem head_liveFlows (given : start.id ≠ "") {live : LiveFlow} {rest : List LiveFlow}
    (lives : d.liveFlows start.id ElementKind.isTaskLike = live :: rest) :
    ∃ dead later, d.flowsFrom start.id = dead ++ live.flow :: later ∧ (∀ f ∈ dead, ¬ d.LeadsIn f) ∧
      d.named live.flow.target ElementKind.isTaskLike = [live.target] := by
  rw [liveFlows, outgoing_of_ne_empty d given, List.filterMap_eq_cons_iff] at lives
  obtain ⟨dead, f, later, split, skipped, found, _⟩ := lives
  have resolved : d.resolve f.target ElementKind.isTaskLike = .ok live.target ∧ f = live.flow := by
    split at found
    · rename_i target named
      obtain rfl := Option.some.inj found
      exact ⟨named, rfl⟩
    · cases found
  obtain ⟨resolved, rfl⟩ := resolved
  refine ⟨dead, later, split, ?_, resolve_eq_ok_iff.mp resolved⟩
  intro f member leads
  obtain ⟨x, only⟩ := leadsIn_iff.mp leads
  have none := skipped f member
  rw [resolve_eq_ok_iff.mpr only] at none
  cases none

end LeadsIn

end Diagram

namespace Entry

variable {d : Diagram} {start : Element} {s : Diagnostics}

theorem usable_iff_ofStart (given : start.id ≠ "") : d.Usable start ↔ (ofStart d start s).1 ≠ none := by
  rw [Diagram.usable_iff given, fst_ofStart, ne_eq, ne_eq, Option.map_eq_none_iff, List.head?_eq_none_iff]

theorem warnings_of_idle (given : start.id ≠ "") (idle : ¬ d.Usable start) :
    (ofStart d start s).2.warnings = s.warnings ++ d.idleReport start := by
  have none : d.liveFlows start.id ElementKind.isTaskLike = [] := by
    rwa [Diagram.usable_iff given, not_not] at idle
  have all : (d.flowsFrom start.id).filter (¬ d.LeadsIn ·) = d.flowsFrom start.id := by
    rw [List.filter_eq_self]
    intro f member
    exact decide_eq_true fun leads => idle ⟨f, member, leads⟩
  rw [warnings_ofStart, d.deadFlows_of_ne_empty given, none, all]
  rfl

theorem warnings_of_usable (given : start.id ≠ "") (usable : d.Usable start) :
    (ofStart d start s).2.warnings = s.warnings ++ d.entryReport start := by
  rw [warnings_ofStart, d.deadFlows_of_ne_empty given, Diagram.entryReport, ← d.length_liveFlows_of_ne_empty given]
  rw [Diagram.usable_iff given] at usable
  generalize d.liveFlows start.id ElementKind.isTaskLike = live at usable ⊢
  rcases live with _ | ⟨f, _ | ⟨g, rest⟩⟩
  · exact (usable rfl).elim
  · rfl
  · rw [if_pos (by simp)]
    rfl

theorem resolution_cons_of_idle {starts : List Element} {found : Option Entry} {warnings : List Warning}
    (idle : ¬ d.Usable start) (rest : d.Resolution starts found warnings) :
    d.Resolution (start :: starts) found (d.idleReport start ++ warnings) := by
  cases rest with
  | failed others => exact .failed (List.forall_mem_cons.mpr ⟨idle, others⟩)
  | @chosen before after later first _ _ _ others flows skipped leads =>
    have chosen : d.Resolution ((start :: before) ++ later :: after) (some ⟨later, first⟩)
        ((start :: before).flatMap d.idleReport ++ d.entryReport later ++ after.map fun s => .extraStart later.id s.id) :=
      .chosen (List.forall_mem_cons.mpr ⟨idle, others⟩) flows skipped leads
    simpa only [List.cons_append, List.flatMap_cons, List.append_assoc] using chosen

theorem resolution_cons_of_usable {dead later : List Flow} {flow : Flow} {first : Element}
    (flows : d.flowsFrom start.id = dead ++ flow :: later) (skipped : ∀ f ∈ dead, ¬ d.LeadsIn f)
    (leads : d.named flow.target ElementKind.isTaskLike = [first]) (after : List Element) :
    d.Resolution (start :: after) (some ⟨start, first⟩)
      (d.entryReport start ++ after.map fun s => .extraStart start.id s.id) := by
  have none : ∀ s ∈ ([] : List Element), ¬ d.Usable s := fun s member => nomatch member
  have chosen : d.Resolution ([] ++ start :: after) (some ⟨start, first⟩)
      ([].flatMap d.idleReport ++ d.entryReport start ++ after.map fun s => .extraStart start.id s.id) :=
    .chosen none flows skipped leads
  exact chosen

theorem resolution_choose {starts : List Element} (given : ∀ start ∈ starts, start.id ≠ "") :
    ∃ warnings, d.Resolution starts (choose d starts s).1 warnings ∧
      (choose d starts s).2.warnings = s.warnings ++ warnings := by
  induction starts generalizing s with
  | nil => exact ⟨[], .failed (List.forall_mem_nil _), (List.append_nil _).symm⟩
  | cons start rest ih =>
    rw [List.forall_mem_cons] at given
    rw [choose]
    rcases offered : ofStart d start s with ⟨_ | entry, after⟩
    · have idle : ¬ d.Usable start := by rw [usable_iff_ofStart given.1, offered, not_not]
      have reported := warnings_of_idle (s := s) given.1 idle
      rw [offered] at reported
      obtain ⟨later, resolution, more⟩ := ih (s := after) given.2
      refine ⟨_, resolution_cons_of_idle idle resolution, ?_⟩
      rw [more, reported, List.append_assoc]
    · have usable : d.Usable start := by
        rw [usable_iff_ofStart given.1, offered]
        exact Option.some_ne_none entry
      have reported := warnings_of_usable (s := s) given.1 usable
      have first := fst_ofStart d start s
      obtain ⟨live, more, lives⟩ := List.exists_cons_of_ne_nil ((Diagram.usable_iff given.1).mp usable)
      obtain ⟨dead, later, split, skipped, leads⟩ := Diagram.head_liveFlows given.1 lives
      rw [offered] at reported first
      rw [lives, List.head?_cons, Option.map_some] at first
      refine ⟨_, first ▸ resolution_cons_of_usable split skipped leads rest, ?_⟩
      rw [Diagnostics.warnings_warnAll, reported, List.append_assoc]

/-- The search for the entry finds what scans over the tables find. -/
theorem resolution_resolve (given : ∀ s ∈ d.elements, s.kind = .startEvent → s.id ≠ "") :
    d.Resolution (d.elements.filter (·.kind == .startEvent)) (resolve d).1 (resolve d).2.warnings := by
  have named : ∀ start ∈ d.startEvents, start.id ≠ "" := by
    intro start member
    rw [Diagram.startEvents_eq_filter, List.mem_filter] at member
    exact given start member.1 (eq_of_beq member.2)
  obtain ⟨warnings, resolution, reported⟩ := resolution_choose (s := {}) named
  rw [← Diagram.startEvents_eq_filter]
  exact reported ▸ resolution

end Entry

namespace Diagram

theorem Resolution.eq_none_iff {d : Diagram} {starts : List Element} {found : Option Entry} {warnings : List Warning}
    (resolution : d.Resolution starts found warnings) : found = none ↔ ∀ s ∈ starts, ¬ d.Usable s := by
  cases resolution with
  | failed idle => exact iff_of_true rfl idle
  | @chosen _ _ start _ dead later flow _ flows _ leads =>
    refine iff_of_false (Option.some_ne_none _) fun idle => idle start (by simp) ⟨flow, ?_, leadsIn_iff.mpr ⟨_, leads⟩⟩
    rw [flows]
    exact List.mem_append_right dead List.mem_cons_self

theorem verdict_ne_noEntryPoint (strict : Bool) (w : Workflow) (s : Diagnostics) :
    Compilation.verdict strict w s ≠ .error .noEntryPoint := by
  unfold Compilation.verdict
  split
  · simp
  · simp

theorem compile_eq_noEntryPoint_iff (d : Diagram) (options : CompileOptions) :
    (d.compile options).result = .error .noEntryPoint ↔ (Entry.resolve d).1 = none := by
  rw [compile]
  rcases Entry.resolve d with ⟨_ | entry, diagnostics⟩
  · exact iff_of_true rfl rfl
  · exact iff_of_false (verdict_ne_noEntryPoint _ _ _) (Option.some_ne_none entry)

/--
In every document the first usable start event is chosen and leads to the target of its first flow that
leads in; there is no entry just in case no start event is usable. The warnings are those about the start
events before the chosen one, about its own flows, and one about each start event after it.
-/
theorem entry_resolution (document : Xml.Document) :
    (Diagram.ofDocument document).Resolution ((Diagram.ofDocument document).elements.filter (·.kind == .startEvent))
      (Entry.resolve (Diagram.ofDocument document)).1
      (Entry.resolve (Diagram.ofDocument document)).2.warnings ∧
    ∀ options, ((Diagram.ofDocument document).compile options).result = .error .noEntryPoint ↔
      ∀ s ∈ (Diagram.ofDocument document).elements, s.kind = .startEvent → ¬ (Diagram.ofDocument document).Usable s := by
  have given : ∀ s ∈ (ofDocument document).elements, s.kind = .startEvent → s.id ≠ "" :=
    fun s member => id_ne_empty_of_startEvent member
  have resolution := Entry.resolution_resolve given
  refine ⟨resolution, fun options => ?_⟩
  rw [compile_eq_noEntryPoint_iff, resolution.eq_none_iff]
  simp only [List.mem_filter, beq_iff_eq, and_imp]

end Diagram

end BpmnWorkflow
