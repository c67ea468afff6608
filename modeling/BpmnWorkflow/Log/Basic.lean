import BpmnWorkflow.Compilation.Notice

/-!
# Log entries

What a log shows of a notice, and how an entry is written.
-/

namespace BpmnWorkflow

/-- From the gravest to the most detailed. -/
inductive LogLevel
  | error
  | warn
  | info
  | debug
  | trace
  deriving DecidableEq, Repr

namespace LogLevel

def label : LogLevel → String
  | error => "ERROR"
  | warn => "WARN"
  | info => "INFO"
  | debug => "DEBUG"
  | trace => "TRACE"

def detail : LogLevel → Nat
  | error => 1
  | warn => 2
  | info => 3
  | debug => 4
  | trace => 5

end LogLevel

inductive LogValue
  | text (s : String)
  | count (n : Nat)
  deriving DecidableEq, Repr

def LogValue.show : LogValue → String
  | text s => s
  | count n => toString n

structure LogEntry where
  level : LogLevel
  target : String
  message : String
  fields : List (String × LogValue) := []
  deriving DecidableEq, Repr

/-! ### Entries as texts -/

namespace LogEntry

/-- Characters that a terminal takes for commands are escaped, all else is written as it is. -/
def escapeChar (c : Char) : List Char :=
  if c = '\x1B' then "\\x1b".toList
  else if c = '\x07' then "\\x07".toList
  else if c = '\x08' then "\\x08".toList
  else if c = '\x0C' then "\\x0c".toList
  else if c = '\x7F' then "\\x7f".toList
  else if 0x80 ≤ c.toNat && c.toNat ≤ 0x9F then "\\u\x7b".toList ++ Nat.toDigits 16 c.toNat ++ ['\x7d']
  else [c]

def escape (s : String) : String := .ofList (s.toList.flatMap escapeChar)

/-- The message, escaped, and after it each field with a space before it. -/
def text (e : LogEntry) : String :=
  e.fields.foldl (fun shown (key, value) => s!"{shown} {key}={value.show}")
    s!"{e.level.label} {e.target}: {escape e.message}"

def messageField : String := "message"

def hasField (e : LogEntry) (name : String) : Bool :=
  name == messageField || e.fields.any fun (key, _) => key == name

end LogEntry

/-! ### Notices as entries -/

def compilerTarget : String := "guideflow_bpmn"

def Notice.logEntry : Notice → LogEntry
  | .warning w => ⟨.warn, compilerTarget, w.text, []⟩
  | .entryResolved start entry =>
    ⟨.debug, s!"{compilerTarget}::entry", "resolved entry point",
      [("start", .text start), ("entry", .text entry)]⟩
  | .visiting id kind =>
    ⟨.debug, s!"{compilerTarget}::compiler", "visiting element",
      [("id", .text id), ("kind", .text kind.tag)]⟩
  | .redirected source target count =>
    ⟨.debug, s!"{compilerTarget}::compiler::redirect", "redirected transitions",
      [("from", .text source), ("to", .text target), ("rewritten", .count count)]⟩
  | .alreadyRegistered id =>
    ⟨.debug, s!"{compilerTarget}::compiler", "step already registered, skipping", [("id", .text id)]⟩
  | .compiled workflow start steps warnings =>
    ⟨.info, compilerTarget, "compiled BPMN workflow",
      [("workflow", .text workflow), ("start", .text start), ("steps", .count steps),
        ("warnings", .count warnings)]⟩

end BpmnWorkflow
