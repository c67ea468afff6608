import BpmnWorkflow.FileTree.Place

/-!
# File trees

The files and directories below a working directory. Reading leaves a tree as it is; making
directories adds directories only; writing changes one file only. A path may lead out of the working
directory, to what the system has around it.
-/

namespace BpmnWorkflow

inductive FileError
  | notFound
  | notDirectory
  | isDirectory
  | alreadyExists
  | nameTooLong
  | noSpace
  /-- A terminal is asked for where there is none. -/
  | noTerminal
  | notText
  | other (code : Nat) (text : String)
  deriving DecidableEq, Repr

namespace FileError

def message : FileError → String
  | notFound => "No such file or directory (os error 2)"
  | notDirectory => "Not a directory (os error 20)"
  | isDirectory => "Is a directory (os error 21)"
  | alreadyExists => "File exists (os error 17)"
  | nameTooLong => "File name too long (os error 36)"
  | noSpace => "No space left on device (os error 28)"
  | noTerminal => "No such device or address (os error 6)"
  | notText => "stream did not contain valid UTF-8"
  | other code text => s!"{text} (os error {code})"

end FileError

/-- Files with their texts, where a file has one, and directories. A directory that holds a file
exists without being listed. -/
structure FileTree where
  files : List (Place × Option String) := []
  directories : List Place := []
  surroundings : Surroundings := {}
  deriving Repr, Inhabited

namespace FileTree

def file? (t : FileTree) (p : Place) : Option (Option String) := t.files.lookup p

def isFile (t : FileTree) (p : Place) : Bool := (t.file? p).isSome

def isDirectory (t : FileTree) (p : Place) : Bool :=
  let holds (q : Place) : Bool := p.isPrefixOf q
  p.isEmpty || t.directories.any holds || t.files.any fun (q, _) => holds q && q != p

def noDirectory (t : FileTree) (p : Place) : FileError :=
  if t.isFile p then .notDirectory else .notFound

def longestName : Nat := 255

def longestPath : Nat := 4095

/-- The place that names lead to: all on the way must be directories. -/
def locate (t : FileTree) (here : Place) : List String → Except FileError Place
  | [] => .ok here
  | name :: rest =>
    if !t.isDirectory here then .error (t.noDirectory here)
    else if longestName < name.utf8ByteSize then .error .nameTooLong
    else t.locate (t.surroundings.advance here name) rest

def follow (t : FileTree) (path : String) (names : List String) : Except FileError Place :=
  if longestPath < path.utf8ByteSize then .error .nameTooLong else t.locate (.start path) names

def read (t : FileTree) (path : String) : Except FileError String := do
  let p ← t.follow path (Path.names path)
  if t.isDirectory p then throw .isDirectory
  if t.surroundings.device? p == some .terminal then throw .noTerminal
  match t.file? p with
  | some (some text) => return text
  | some none => throw .notText
  | none => throw .notFound

/-! ### Changes -/

def addDirectory (t : FileTree) (start : Place) (names : List String) :
    Except FileError FileTree := do
  let p ← t.locate start names
  if t.isDirectory p || t.isFile p then throw .alreadyExists
  if t.surroundings.isSealed p then throw .notFound
  return { t with directories := p :: t.directories }

def ensureDirectory (t : FileTree) (start : Place) (names : List String) :
    Except FileError FileTree :=
  match t.addDirectory start names with
  | .error .alreadyExists =>
    if (t.locate start names).toOption.any t.isDirectory then .ok t else .error .alreadyExists
  | result => result

/-- Makes the directory that names lead to, the last name given first. Where one on the way is
missing, those before the last name are made first. -/
def addDirectories (t : FileTree) (start : Place) : List String → Except FileError FileTree
  | [] => .ok t
  | last :: before => do
    let names := (last :: before).reverse
    match t.ensureDirectory start names with
    | .error .notFound => (← t.addDirectories start before).ensureDirectory start names
    | result => result

def createDirectories (t : FileTree) (path : String) : Except FileError FileTree :=
  if longestPath < path.utf8ByteSize then .error .nameTooLong
  else t.addDirectories (.start path) (Path.names path).reverse

def put (t : FileTree) (p : Place) (text : String) : FileTree :=
  { t with files := (p, some text) :: t.files.filter (·.1 != p) }

/-- Writes a file, new or not, in a directory that exists. A name with a slash after it is no file
and is not looked up. -/
def write (t : FileTree) (path text : String) : Except FileError FileTree := do
  let names := Path.names path
  if Path.hasSlashAfterName path then
    let _ ← t.follow path (names.dropLast.dropLast ++ ["."])
    throw .isDirectory
  let p ← t.follow path names
  if t.isDirectory p then throw .isDirectory
  if t.surroundings.isSealed p && !t.isFile p then throw .notFound
  match t.surroundings.device? p with
  | some .full => throw .noSpace
  | some .terminal => throw .noTerminal
  | some .sink | some .input => return t
  | some .output | some .errors | none => return t.put p text

def shownOn (t : FileTree) (device : Device) : String :=
  let written := t.files.filterMap fun (p, text) => if t.surroundings.device? p == some device then text else none
  String.join written

/-- The files below the working directory with another text than before, new ones included. -/
def changes (before after : FileTree) : List (Place × Option String) :=
  after.files.filter fun (p, text) => p.isBelow && before.file? p != some text

end FileTree

end BpmnWorkflow
