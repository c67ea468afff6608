/-!
# Paths

A path is a text whose names are parted by slashes. Its last name may be cut off, which leaves the
path of the directory above, or be asked for its stem.
-/

namespace BpmnWorkflow.Path

/-- The names to follow one by one. A slash at the end stands for a dot, which only a directory
has. -/
def names (path : String) : List String :=
  let parts := (path.toList.splitOn '/').map String.ofList
  let followed := parts.filter fun name => !name.isEmpty && name != "."
  match parts.getLast? with
  | some "" | some "." => followed ++ ["."]
  | _ => followed

def isAbsolute (path : String) : Bool := path.toList.head? == some '/'

def hasSlashAfterName (path : String) : Bool :=
  let reversed := path.toList.reverse
  let last := ((reversed.dropWhile (· == '/')).takeWhile (· != '/')).reverse
  reversed.head? == some '/' && last != [] && last != ['.'] && last != ['.', '.']

def trimEnd : List Char → List Char
  | '/' :: rest => trimEnd rest
  | '.' :: '/' :: rest => trimEnd rest
  | reversed => reversed

def parent (path : String) : String :=
  let above := (trimEnd path.toList.reverse).dropWhile (· != '/')
  .ofList (trimEnd above).reverse

def chainWithin : Nat → String → List String
  | 0, _ => []
  | n + 1, path => if path.isEmpty then [] else path :: chainWithin n (parent path)

/-- The path and those above it; no path has more above it than it has characters. -/
def chain (path : String) : List String := chainWithin path.length path

/-- The last name of a path, unless it leads nowhere or up. -/
def lastName? (path : String) : Option String :=
  let name := String.ofList ((trimEnd path.toList.reverse).takeWhile (· != '/')).reverse
  if name.isEmpty || name == "." || name == ".." then none else some name

/-- A name without its last extension; a dot in front begins none. -/
def dropExtension (name : List Char) : List Char :=
  match name.reverse.dropWhile (· != '.') with
  | [] | [_] => name
  | _ :: before => before.reverse

def stem (path : String) : String :=
  match lastName? path with
  | some name => .ofList (dropExtension name.toList)
  | none => ""

end BpmnWorkflow.Path
