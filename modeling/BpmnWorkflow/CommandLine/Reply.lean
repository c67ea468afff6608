import BpmnWorkflow.CommandLine.Arguments
import BpmnWorkflow.Compilation.Basic
import BpmnWorkflow.FileTree.Basic
import BpmnWorkflow.Json.Printer
import BpmnWorkflow.Log.Basic
import BpmnWorkflow.Workflow.Outline
import BpmnWorkflow.Yaml.Printer

/-!
# Replies

What a command does once its input is read: what it prints, logs and writes to a file, and with
which code it ends. A command that cannot read or compile its input prints and writes nothing.
-/

namespace BpmnWorkflow

inductive Failure
  | read (path : String) (cause : FileError)
  | compile (path : String) (cause : CompileError)
  | create (directory : String) (cause : FileError)
  | write (path : String) (cause : FileError)
  deriving DecidableEq, Repr

namespace Failure

def context : Failure → String
  | read path _ => s!"read {path}"
  | compile path _ => s!"compile {path}"
  | create directory _ => s!"create {directory}"
  | write path _ => s!"write {path}"

/-- The cause on lines that line up. A document that cannot be read has a cause of its own, so its
lines are numbered. -/
def causeLines : Failure → String
  | compile _ .invalidXml => s!"    0: {CompileError.message .invalidXml}"
  | compile _ cause => indented cause.message
  | read _ cause | create _ cause | write _ cause => indented cause.message
where
  indented (s : String) : String :=
    .ofList (("    ".toList ++ s.toList).flatMap fun c => if c == '\n' then "\n    ".toList else [c])

def message (f : Failure) : String := s!"Error: {f.context}\n\nCaused by:\n{f.causeLines}"

end Failure

structure Reply where
  code : Nat := 0
  stdout : String := ""
  log : List LogEntry := []
  /-- The path and the text of the file to write. -/
  output : Option (String × String) := none
  failure : Option Failure := none

namespace Reply

def failed (f : Failure) (log : List LogEntry) : Reply where
  code := 1
  log := log
  failure := some f

def printed (code : Nat) (text : String) (log : List LogEntry) : Reply where
  code := code
  stdout := s!"{text}\n"
  log := log

end Reply

namespace Workflow

def render (w : Workflow) : OutputFormat → String
  | .json => w.outline.toPrettyJson
  | .yaml => w.outline.toYaml

def summary (w : Workflow) (warnings : List Warning) : String :=
  s!"{w.name}: {w.size} step(s), entry point {w.entryPoint}, {warnings.length} warning(s)"

end Workflow

namespace Command

def report (w : Workflow) (warnings : List Warning) : String :=
  "\n".intercalate (warnings.map (fun warning => s!"warning: {warning.text}") ++ [w.summary warnings])

/-- Without a name of its own a workflow is named after the file it comes from. -/
def workflowName (c : Command) : String :=
  let given :=
    match c with
    | compile _ name .. => name
    | check _ name => name
  given.getD (Path.stem c.input)

def options (c : Command) : CompileOptions where
  name := c.workflowName
  strict :=
    match c with
    | compile _ _ _ _ strict => strict
    | check .. => false

/-- A check prints its warnings and so does not log them. -/
def logs (c : Command) (n : Notice) : Bool :=
  match c with
  | compile .. => true
  | check .. => n.warning?.isNone

def deliver (c : Command) (w : Workflow) (warnings : List Warning) (log : List LogEntry) : Reply :=
  match c with
  | compile _ _ none format _ => .printed 0 (w.render format) log
  | compile _ _ (some path) format _ => { log, output := some (path, w.render format) }
  | check .. => .printed (if warnings.isEmpty then 0 else 1) (report w warnings) log

def reply (c : Command) (content : Except FileError String) : Reply :=
  match content with
  | .error e => .failed (.read c.input e) []
  | .ok text =>
    let compilation := BpmnWorkflow.compile text c.options
    let log := (compilation.notices.filter c.logs).map Notice.logEntry
    match compilation.result with
    | .error e => .failed (.compile c.input e) log
    | .ok w => c.deliver w compilation.warnings log

end Command

end BpmnWorkflow
