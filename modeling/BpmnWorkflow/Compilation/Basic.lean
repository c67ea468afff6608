import BpmnWorkflow.Compilation.Entry
import BpmnWorkflow.Compilation.Visit
import BpmnWorkflow.Diagram.Reading

/-!
# Compilation

Compiles a diagram into a workflow: choose the entry, walk what it reaches, check the result.
The report lists everything that happened, also when there is no workflow in the end.
-/

namespace BpmnWorkflow

structure CompileOptions where
  name : String := ""
  strict : Bool := false
  validate : Bool := true
  deriving DecidableEq, Repr

namespace CompileOptions

def named (name : String) : CompileOptions where
  name := name

end CompileOptions

inductive CompileError
  | invalidXml
  | noEntryPoint
  | strictWarnings (count : Nat) (first : String)
  deriving DecidableEq, Repr

namespace CompileError

def supportedTags : String := ", ".intercalate ElementKind.entryTags

def message : CompileError → String
  | invalidXml => "invalid BPMN XML"
  | noEntryPoint => s!"no start event leads to a supported element, expected one of: {supportedTags}"
  | strictWarnings count first =>
    s!"compilation reported {count} warning(s) in strict mode, first: {first}"

end CompileError

structure Compilation where
  result : Except CompileError Workflow
  notices : List Notice

namespace Compilation

def warnings (c : Compilation) : List Warning := Notice.warnings c.notices

/-- Strict mode refuses a workflow that was warned about. -/
def verdict (strict : Bool) (workflow : Workflow) (diagnostics : Diagnostics) : Except CompileError Workflow :=
  if strict && 0 < diagnostics.count then
    .error (.strictWarnings diagnostics.count diagnostics.firstText)
  else .ok workflow

def validate (walk : Walk) : Walk :=
  walk.warnAll (walk.workflow.danglingTransitions.map .danglingTransition)

end Compilation

namespace Diagram

def walk (d : Diagram) (name : String) (entry : Entry) (diagnostics : Diagnostics) : Walk :=
  (Walk.start name entry.first diagnostics).run d [entry.first]

def compile (d : Diagram) (options : CompileOptions) : Compilation :=
  match Entry.resolve d with
  | (none, diagnostics) => ⟨.error .noEntryPoint, diagnostics.delivered⟩
  | (some entry, diagnostics) =>
    let walked := d.walk options.name entry diagnostics
    let checked := if options.validate then Compilation.validate walked else walked
    let workflow := checked.workflow
    let finished :=
      checked.note (.compiled workflow.name entry.start.id workflow.size checked.diagnostics.count)
    ⟨Compilation.verdict options.strict workflow finished.diagnostics, finished.notices⟩

end Diagram

def compile (text : String) (options : CompileOptions) : Compilation :=
  match Diagram.parse? text with
  | none => ⟨.error .invalidXml, []⟩
  | some d => d.compile options

end BpmnWorkflow
