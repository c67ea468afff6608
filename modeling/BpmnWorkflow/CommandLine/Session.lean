import BpmnWorkflow.CommandLine.Help
import BpmnWorkflow.CommandLine.Reply
import BpmnWorkflow.Log.Filter
import BpmnWorkflow.Text.Lines

/-!
# Sessions

A run of the program from its arguments to the end, in a tree of files.
-/

namespace BpmnWorkflow

/-- What a run puts on its standard error. -/
inductive Remark
  | complaint (text : String)
  | entry (e : LogEntry)
  /-- A text written there as to a file, without a line feed of its own. -/
  | content (text : String)
  deriving DecidableEq, Repr

namespace Remark

def text : Remark → String
  | complaint text => text ++ "\n"
  | entry e => e.text ++ "\n"
  | content text => text

/-- A log filter is about entries alone. -/
def isShown (filter : LogFilter) : Remark → Bool
  | entry e => filter.admits e
  | complaint _ | content _ => true

end Remark

structure Session where
  code : Nat
  stdout : String
  remarks : List Remark
  failure : Option Failure
  files : FileTree

namespace Session

def programVersion : String := "guideflow 0.1.0"

def misuseCode : Nat := 2

def wroteEntry (path : String) : LogEntry := ⟨.debug, "guideflow", "wrote workflow", [("path", .text path)]⟩

def save (files : FileTree) (path text : String) : Option Failure × FileTree :=
  let directory := Path.parent path
  let made := if directory.isEmpty then .ok files else files.createDirectories directory
  match made with
  | .error e => (some (.create directory e), files)
  | .ok files =>
    match files.write path text with
    | .error e => (some (.write path e), files)
    | .ok files => (none, files)

def ofReply (files : FileTree) (r : Reply) : Session :=
  let session : Session :=
    { code := r.code, stdout := r.stdout, remarks := r.log.map .entry, failure := r.failure, files }
  match r.output with
  | none => session
  | some (path, text) =>
    match save files path text with
    | (some failure, files) => { session with code := 1, failure := some failure, files }
    | (none, files) =>
      { session with
        stdout := r.stdout ++ files.shownOn .output
        remarks := session.remarks ++ [.content (files.shownOn .errors), .entry (wroteEntry path)]
        files }

def logFilter (asked : Option String) (quiet : Bool) : LogFilter :=
  match asked with
  | some text => .ofText text
  | none => .ofLevel (if quiet then .error else .info)

/-- Runs the program. Its log holds what the filter admits, after complaints about the filter. -/
def run (arguments : List String) (asked : Option String) (files : FileTree) : Session :=
  match Invocation.ofArguments? arguments with
  | none => { code := misuseCode, stdout := "", remarks := [], failure := none, files }
  | some .version =>
    { code := 0, stdout := s!"{programVersion}\n", remarks := [], failure := none, files }
  | some (.help topic) => { code := 0, stdout := topic.text, remarks := [], failure := none, files }
  | some (.run quiet command) =>
    let session := ofReply files (command.reply (files.read command.input))
    let complaints := (asked.map LogFilter.complaints).getD []
    { session with
      remarks := complaints.map .complaint ++
        session.remarks.filter (·.isShown (logFilter asked quiet)) }

/-! ### The standard error -/

def errorText (s : Session) : String :=
  String.join (s.remarks.map Remark.text) ++ (s.failure.map fun f => s!"{f.message}\n").getD ""

def errorLines (s : Session) : List (List Char) := Text.lines s.errorText.toList

def opensFailure (line : List Char) : Bool := "Error: ".toList.isPrefixOf line

/-- The lines before a failure. A line feed inside a remark ends a line. -/
def logLines (s : Session) : List String := (s.errorLines.takeWhile (!opensFailure ·)).map String.ofList

def failureText? (s : Session) : Option String :=
  match s.errorLines.dropWhile (!opensFailure ·) with
  | [] => none
  | lines => some ("\n".intercalate (lines.map String.ofList))

end Session

end BpmnWorkflow
