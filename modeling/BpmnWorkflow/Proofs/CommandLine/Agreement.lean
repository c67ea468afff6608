import BpmnWorkflow.CommandLine.Session
import BpmnWorkflow.Proofs.CommandLine.Line
import BpmnWorkflow.Proofs.Compilation.Strictness
import BpmnWorkflow.Proofs.Xml.Pieces

/-!
# Checking and strict compilation

A check collects the warnings that are delivered and ends by whether there are any; a strict compilation is refused by
the count and the first warning that the diagnostics keep for themselves. Both compile the same text and the two records
agree, so the commands do: `check_agrees_with_strict_compilation`. A compilation that fails before there is a workflow has
not printed or written anything.
-/

namespace BpmnWorkflow

/-! ### The compilation behind both -/

section Compilation

variable {text : String} {options : CompileOptions} {w : Workflow}

/-- Without regard to strictness there is an error or a workflow; strictness only gives the verdict on the workflow. -/
theorem compile_verdict (text : String) (options : CompileOptions) :
    (∃ e, ∀ strict, (compile text { options with strict := strict }).result = .error e) ∨
    ∃ w, ∃ kept : Diagnostics, kept.Agrees ∧ (compile text options).warnings = kept.warnings ∧
      ∀ strict, (compile text { options with strict := strict }).result = Compilation.verdict strict w kept := by
  unfold compile
  cases Diagram.parse? text with
  | none => exact .inl ⟨.invalidXml, fun _ => rfl⟩
  | some d =>
    by_cases entered : (Entry.resolve d).1 = none
    · exact .inl ⟨.noEntryPoint, fun _ => (Diagram.compile_eq_noEntryPoint_iff d _).mpr entered⟩
    · obtain ⟨finished, agrees, decided⟩ := Diagram.exists_finished options entered
      have reported : (d.compile options).warnings = finished.diagnostics.warnings :=
        congrArg Compilation.warnings (decided options.strict)
      exact .inr ⟨finished.workflow, finished.diagnostics, agrees, reported,
        fun strict => congrArg Compilation.result (decided strict)⟩

/-- What a check goes by, the list of the warnings, is what strictness goes by, their count. -/
theorem strict_eq_ok_iff (text : String) (options : CompileOptions) (w : Workflow) :
    (compile text { options with strict := true }).result = .ok w ↔
      (compile text { options with strict := false }).result = .ok w ∧ (compile text options).warnings = [] := by
  obtain ⟨e, failed⟩ | ⟨w', kept, agrees, reported, decided⟩ := compile_verdict text options
  · simp only [failed, reduceCtorEq, false_and]
  · rw [decided, decided, reported]
    cases warned : kept.warnings with
    | nil =>
      rw [Compilation.verdict_of_quiet agrees warned, Compilation.verdict_of_quiet agrees warned]
      exact (and_iff_left rfl).symm
    | cons first rest =>
      rw [Compilation.verdict_of_warned agrees warned]
      simp only [reduceCtorEq, and_false]

theorem strict_eq_strictWarnings (options : CompileOptions) {first : Warning} {rest : List Warning}
    (compiled : (compile text { options with strict := false }).result = .ok w)
    (warned : (compile text options).warnings = first :: rest) :
    (compile text { options with strict := true }).result =
      .error (.strictWarnings (first :: rest).length first.text) := by
  obtain ⟨e, failed⟩ | ⟨w', kept, agrees, reported, decided⟩ := compile_verdict text options
  · rw [failed] at compiled
    cases compiled
  · rw [decided]
    exact Compilation.verdict_of_warned agrees (reported.symm.trans warned) w'

end Compilation

/-! ### Replies -/

namespace Command

variable {c : Command} {text : String} {w : Workflow}

theorem reply_of_error {e : CompileError} (failed : (BpmnWorkflow.compile text c.options).result = .error e) :
    ∃ log, c.reply (.ok text) = .failed (.compile c.input e) log := by
  simp only [reply, failed]
  exact ⟨_, rfl⟩

theorem reply_of_workflow (compiled : (BpmnWorkflow.compile text c.options).result = .ok w) :
    ∃ log, c.reply (.ok text) = c.deliver w (BpmnWorkflow.compile text c.options).warnings log := by
  simp only [reply, compiled]
  exact ⟨_, rfl⟩

end Command

theorem intercalate_lines (lines : List String) (last : String) :
    "\n".intercalate (lines ++ [last]) ++ "\n" = String.join (lines.map (· ++ "\n")) ++ (last ++ "\n") := by
  induction lines with
  | nil => simp
  | cons line rest ih =>
    rw [List.cons_append, String.intercalate_cons_of_ne_nil (by simp), String.append_assoc, ih, List.map_cons,
      String.join_cons]
    simp only [String.append_assoc]

namespace Session

/-- The run fails before anything is printed or written. -/
structure FailsEarly (s : Session) (files : FileTree) (f : Failure) : Prop where
  code : s.code = 1
  failure : s.failure = some f
  stdout : s.stdout = ""
  files : s.files = files

/-- The run prints these warnings, each on a line, and then a summary that counts them. -/
def Lists (s : Session) (w : Workflow) (warnings : List Warning) : Prop :=
  s.stdout = String.join (warnings.map fun warning => s!"warning: {warning.text}\n") ++
    (s!"{w.name}: {w.size} step(s), entry point {w.entryPoint}, {warnings.length} warning(s)" ++ "\n")

variable {arguments : List String} {quiet : Bool} {c : Command} {asked : Option String} {files : FileTree}
  {text : String} {w : Workflow}

/-- Of the outcome of a run only the remarks depend on the log filter. -/
theorem run_eq (parsed : Invocation.ofArguments? arguments = some (.run quiet c)) (asked : Option String)
    (files : FileTree) : ∃ remarks, run arguments asked files =
      { ofReply files (c.reply (files.read c.input)) with remarks := remarks } := by
  rw [run, parsed]
  exact ⟨_, rfl⟩

theorem failsEarly_of_failed {f : Failure} {log : List LogEntry}
    (parsed : Invocation.ofArguments? arguments = some (.run quiet c))
    (failed : c.reply (files.read c.input) = .failed f log) : (run arguments asked files).FailsEarly files f := by
  obtain ⟨remarks, ran⟩ := run_eq parsed asked files
  rw [ran, failed]
  exact ⟨rfl, rfl, rfl, rfl⟩

theorem failsEarly_of_read {e : FileError} (parsed : Invocation.ofArguments? arguments = some (.run quiet c))
    (unread : files.read c.input = .error e) : (run arguments asked files).FailsEarly files (.read c.input e) := by
  have replied : c.reply (files.read c.input) = .failed (.read c.input e) [] := by
    rw [unread]
    rfl
  exact failsEarly_of_failed parsed replied

theorem failsEarly_of_compile {e : CompileError} (parsed : Invocation.ofArguments? arguments = some (.run quiet c))
    (read : files.read c.input = .ok text) (failed : (compile text c.options).result = .error e) :
    (run arguments asked files).FailsEarly files (.compile c.input e) := by
  obtain ⟨log, replied⟩ := Command.reply_of_error failed
  exact failsEarly_of_failed parsed (by rw [read, replied])

theorem run_of_printed {code : Nat} {printed : String} {log : List LogEntry}
    (parsed : Invocation.ofArguments? arguments = some (.run quiet c))
    (replied : c.reply (files.read c.input) = .printed code printed log) (asked : Option String) :
    (run arguments asked files).code = code ∧ (run arguments asked files).stdout = s!"{printed}\n" := by
  obtain ⟨remarks, ran⟩ := run_eq parsed asked files
  rw [ran, replied]
  exact ⟨rfl, rfl⟩

/-! ### Both commands on one input -/

section Agreement

variable {input : String} {name : Option String} {format : OutputFormat}

theorem lists_of_stdout {s : Session} {warnings : List Warning}
    (stdout : s.stdout = s!"{Command.report w warnings}\n") : s.Lists w warnings := by
  refine stdout.trans ((intercalate_lines _ _).trans ?_)
  rw [List.map_map]
  rfl

theorem run_check (parsed : Invocation.ofArguments? arguments = some (.run quiet (.check input name)))
    (read : files.read input = .ok text)
    (compiled : (compile text (Command.check input name).options).result = .ok w) (asked : Option String) :
    (run arguments asked files).code =
      (if (compile text (Command.check input name).options).warnings.isEmpty then 0 else 1) ∧
    (run arguments asked files).Lists w (compile text (Command.check input name).options).warnings := by
  obtain ⟨log, replied⟩ := Command.reply_of_workflow compiled
  have replied : (Command.check input name).reply (files.read input) = _ := read ▸ replied
  obtain ⟨code, stdout⟩ := run_of_printed parsed replied asked
  exact ⟨code, lists_of_stdout stdout⟩

/-- What both commands ask for: a text that compiles without a warning. -/
def CompilesCleanly (files : FileTree) (input : String) (options : CompileOptions) : Prop :=
  ∃ text w, files.read input = .ok text ∧ (compile text options).result = .ok w ∧ (compile text options).warnings = []

theorem check_code_iff (parsed : Invocation.ofArguments? arguments = some (.run quiet (.check input name))) :
    (run arguments asked files).code = 0 ↔ CompilesCleanly files input (Command.check input name).options := by
  constructor
  · intro ended
    cases read : files.read input with
    | error e =>
      rw [(failsEarly_of_read parsed read).code] at ended
      cases ended
    | ok text =>
      cases compiled : (compile text (Command.check input name).options).result with
      | error e =>
        rw [(failsEarly_of_compile parsed read compiled).code] at ended
        cases ended
      | ok w =>
        refine ⟨text, w, read, compiled, List.isEmpty_iff.mp ?_⟩
        rw [(run_check parsed read compiled asked).1] at ended
        by_contra warned
        rw [if_neg warned] at ended
        cases ended
  · rintro ⟨text, w, read, compiled, quiet⟩
    rw [(run_check parsed read compiled asked).1, quiet]
    rfl

theorem strict_code_iff
    (parsed : Invocation.ofArguments? arguments = some (.run quiet (.compile input name none format true))) :
    (run arguments asked files).code = 0 ↔ CompilesCleanly files input (Command.check input name).options := by
  -- the options of the two commands differ in strictness only
  have decided (text : String) (w : Workflow) := strict_eq_ok_iff text (Command.check input name).options w
  constructor
  · intro ended
    cases read : files.read input with
    | error e =>
      rw [(failsEarly_of_read parsed read).code] at ended
      cases ended
    | ok text =>
      cases compiled : (compile text (Command.compile input name none format true).options).result with
      | error e =>
        rw [(failsEarly_of_compile parsed read compiled).code] at ended
        cases ended
      | ok w => exact ⟨text, w, read, (decided text w).mp compiled⟩
  · rintro ⟨text, w, read, clean⟩
    obtain ⟨log, replied⟩ := Command.reply_of_workflow (c := .compile input name none format true)
      ((decided text w).mpr clean)
    have replied : (Command.compile input name none format true).reply (files.read input) = _ := read ▸ replied
    exact (run_of_printed parsed replied asked).1

/--
On one input a check and a strict compilation end alike. Where the input compiles with warnings, the check prints them
and counts them, and the strict compilation fails with their number and the text of the first of them. A compilation
that cannot read or compile its input, strict or not and wherever its output is to go, prints nothing and leaves all
files and directories as they are. This holds of all lines of arguments that are read as these commands, and there are
such lines.
-/
theorem check_agrees_with_strict_compilation (input : String) (name : Option String) (files : FileTree) :
    (∀ checkLine strictLine quiet quiet' format asked asked',
      Invocation.ofArguments? checkLine = some (.run quiet (.check input name)) →
      Invocation.ofArguments? strictLine = some (.run quiet' (.compile input name none format true)) →
      let check := run checkLine asked files
      let strict := run strictLine asked' files
      (check.code = 0 ↔ strict.code = 0) ∧
      ∀ text w first rest, files.read input = .ok text →
        (compile text (Command.check input name).options).result = .ok w →
        (compile text (Command.check input name).options).warnings = first :: rest →
        check.code = 1 ∧ check.Lists w (first :: rest) ∧
        strict.FailsEarly files (.compile input (.strictWarnings (first :: rest).length first.text)) ∧
        CompileError.message (.strictWarnings (first :: rest).length first.text) =
          s!"compilation reported {(first :: rest).length} warning(s) in strict mode, first: {first.text}") ∧
    (∀ line quiet output format strict asked,
      Invocation.ofArguments? line = some (.run quiet (.compile input name output format strict)) →
      let session := run line asked files
      (∀ e, files.read input = .error e → session.FailsEarly files (.read input e)) ∧
      ∀ text e, files.read input = .ok text →
        (compile text (Command.compile input name output format strict).options).result = .error e →
        session.FailsEarly files (.compile input e)) ∧
    ∀ c, CommandLine.IsGiven c → Invocation.ofArguments? (CommandLine.line c) = some (.run false c) := by
  refine ⟨?_, ?_, fun c given => CommandLine.ofArguments?_line given⟩
  · intro checkLine strictLine quiet quiet' format asked asked' checks compiles check strict
    refine ⟨(check_code_iff checks).trans (strict_code_iff compiles).symm, ?_⟩
    intro text w first rest read compiled warned
    obtain ⟨code, lists⟩ := run_check checks read compiled asked
    rw [warned] at code lists
    have refused : (compile text (Command.compile input name none format true).options).result =
        .error (.strictWarnings (first :: rest).length first.text) :=
      strict_eq_strictWarnings (Command.check input name).options compiled warned
    exact ⟨code, lists, failsEarly_of_compile compiles read refused, rfl⟩
  · intro line quiet output format strict asked parsed session
    exact ⟨fun e unread => failsEarly_of_read parsed unread,
      fun text e read failed => failsEarly_of_compile parsed read failed⟩

end Agreement

def idleTask : String := "<process><startEvent/><task id='A'/><sequenceFlow sourceRef='start' targetRef='A'/></process>"

def idleTaskDocument : Xml.Document where
  nodes := [.element ⟨"", "process"⟩ [] [
    .element ⟨"", "startEvent"⟩ [] [],
    .element ⟨"", "task"⟩ [⟨⟨"", "id"⟩, "A"⟩] [],
    .element ⟨"", "sequenceFlow"⟩ [⟨⟨"", "sourceRef"⟩, "start"⟩, ⟨⟨"", "targetRef"⟩, "A"⟩] []]]

def idleTaskDiagram : Diagram := .ofParts [
  .element ⟨"start", none, .startEvent, none⟩, .element ⟨"A", none, .task, none⟩, .flow ⟨none, none, "start", "A"⟩]

def idleTaskWorkflow : Workflow where
  name := "d"
  entryPoint := "A"
  steps := OrderedMap.empty
    |>.insert "endEvent-A" (.terminal "End of workflow")
    |>.insert "A" (.task "" "" .guideline ⟨"endEvent-A", "End the workflow", none⟩)

def idleTaskFiles : FileTree := { files := [(["d"], some idleTask)] }

theorem parse?_idleTask : Diagram.parse? idleTask = some idleTaskDiagram := by
  have parsed : Xml.Document.parse? idleTask = some idleTaskDocument :=
    Xml.parse?_of_piecesWithin (n := 5) (by cbv) (by cbv) (by cbv) (by cbv)
  rw [Diagram.parse?, parsed]
  refine congrArg (fun parts => some (Diagram.ofParts parts)) ?_
  simp only [idleTaskDocument, Part.ofNodes, Part.ofNode]
  rfl

theorem compile_idleTask : compile idleTask (Command.check "d" none).options = ⟨.ok idleTaskWorkflow,
    [.entryResolved "start" "A", .visiting "A" .task, .warning (.idleTask "A"), .compiled "d" "start" 2 1]⟩ := by
  have named : (Command.check "d" none).options = .named "d" := by decide
  rw [compile, parse?_idleTask, named]
  cbv

theorem idleTask_agrees :
    Invocation.ofArguments? ["check", "d"] = some (.run false (.check "d" none)) ∧
    Invocation.ofArguments? ["compile", "d", "--strict"] = some (.run false (.compile "d" none none .json true)) ∧
    idleTaskFiles.read "d" = .ok idleTask ∧
    (run ["check", "d"] none idleTaskFiles).code = 1 ∧
    (run ["check", "d"] none idleTaskFiles).Lists idleTaskWorkflow [.idleTask "A"] ∧
    (run ["compile", "d", "--strict"] none idleTaskFiles).FailsEarly idleTaskFiles
      (.compile "d" (.strictWarnings 1 (Warning.text (.idleTask "A")))) ∧
    (run ["compile", "d", "--strict", "-o", "out"] none idleTaskFiles).FailsEarly idleTaskFiles
      (.compile "d" (.strictWarnings 1 (Warning.text (.idleTask "A")))) := by
  have read : idleTaskFiles.read "d" = .ok idleTask := by cbv
  have compiled : (compile idleTask (Command.check "d" none).options).result = .ok idleTaskWorkflow := by
    rw [compile_idleTask]
  have reported : (compile idleTask (Command.check "d" none).options).warnings = [.idleTask "A"] := by
    rw [compile_idleTask]
    rfl
  have refused : (compile idleTask (Command.compile "d" none (some "out") .json true).options).result =
      .error (.strictWarnings 1 (Warning.text (.idleTask "A"))) :=
    strict_eq_strictWarnings (Command.check "d" none).options compiled reported
  obtain ⟨both, anywhere, _⟩ := check_agrees_with_strict_compilation "d" none idleTaskFiles
  obtain ⟨_, warned⟩ := both ["check", "d"] ["compile", "d", "--strict"] false false .json none none rfl rfl
  obtain ⟨code, lists, failed, _⟩ := warned idleTask idleTaskWorkflow (.idleTask "A") [] read compiled reported
  have early := (anywhere ["compile", "d", "--strict", "-o", "out"] false (some "out") .json true none rfl).2 idleTask
    (.strictWarnings 1 (Warning.text (.idleTask "A"))) read refused
  exact ⟨rfl, rfl, read, code, lists, failed, early⟩

end Session

end BpmnWorkflow
