import BpmnWorkflow.CommandLine.Session

/-!
# The program

Runs a session on the files of the system.
-/

namespace BpmnWorkflow.Program

/-- The cause that a system reports by a number, which may come with its sign turned. -/
def numberedError (code : UInt32) (text : String) : FileError :=
  match (if code < 0x80000000 then code else 0 - code).toNat with
  | 2 => .notFound
  | 6 => .noTerminal
  | 17 => .alreadyExists
  | 20 => .notDirectory
  | 21 => .isDirectory
  | 28 => .noSpace
  | 36 => .nameTooLong
  | n => .other n text

def fileError : IO.Error → FileError
  | .noFileOrDirectory .. => .notFound
  | .alreadyExists .. => .alreadyExists
  | .inappropriateType _ code text | .invalidArgument _ code text | .permissionDenied _ code text =>
    numberedError code text
  | e => .other 0 (toString e)

def attempt {α : Type} (action : IO α) : IO (Except FileError α) := do
  match ← action.toBaseIO with
  | .ok a => return .ok a
  | .error e => return .error (fileError e)

def readFile (path : String) : IO (Except FileError String) := do
  match ← attempt (IO.FS.readBinFile path) with
  | .error e => return .error e
  | .ok bytes => return (String.fromUTF8? bytes).elim (.error .notText) .ok

def ensureDirectory (path : String) : IO (Except FileError Unit) := do
  match ← attempt (IO.FS.createDir path) with
  | .error .alreadyExists =>
    match ← readFile path with
    | .error .isDirectory => return .ok ()
    | _ => return .error .alreadyExists
  | result => return result

/-- Makes the first of these directories, each of which lies in the next one. -/
def makeDirectories : List String → IO (Except FileError Unit)
  | [] => return .ok ()
  | path :: above => do
    match ← ensureDirectory path with
    | .error .notFound =>
      match ← makeDirectories above with
      | .error e => return .error e
      | .ok () => ensureDirectory path
    | result => return result

def saveFile (path text : String) : IO (Option Failure) := do
  let directory := Path.parent path
  match ← makeDirectories (Path.chain directory) with
  | .error e => return some (.create directory e)
  | .ok () =>
    match ← attempt (IO.FS.writeFile path text) with
    | .error e => return some (.write path e)
    | .ok () => return none

def complain (lines : List String) : IO Unit := do
  for line in lines do
    (← IO.getStderr).putStrLn line

def showLog (filter : LogFilter) (entries : List LogEntry) : IO Unit :=
  complain ((entries.filter filter.admits).map LogEntry.text)

def showFailure (failure : Failure) : IO Unit := do
  (← IO.getStderr).putStrLn failure.message

def runCommand (filter : LogFilter) (command : Command) : IO UInt32 := do
  let reply := command.reply (← readFile command.input)
  showLog filter reply.log
  (← IO.getStdout).putStr reply.stdout
  match reply.output, reply.failure with
  | _, some failure =>
    showFailure failure
    return reply.code.toUInt32
  | none, none => return reply.code.toUInt32
  | some (path, text), none =>
    match ← saveFile path text with
    | some failure =>
      showFailure failure
      return 1
    | none =>
      showLog filter [Session.wroteEntry path]
      return reply.code.toUInt32

def filterVariable : String := "RUST_LOG"

end BpmnWorkflow.Program

open BpmnWorkflow in
def main (arguments : List String) : IO UInt32 := do
  match Invocation.ofArguments? arguments with
  | none => return Session.misuseCode.toUInt32
  | some .version =>
    IO.println Session.programVersion
    return 0
  | some (.help topic) =>
    IO.print topic.text
    return 0
  | some (.run quiet command) =>
    let asked ← IO.getEnv Program.filterVariable
    Program.complain ((asked.map LogFilter.complaints).getD [])
    Program.runCommand (Session.logFilter asked quiet) command
