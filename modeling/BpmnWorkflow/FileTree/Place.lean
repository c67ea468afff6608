import BpmnWorkflow.FileTree.Path

/-!
# Places

Where a path leads, seen from the working directory, by what a system has around that directory.
-/

namespace BpmnWorkflow

/-- The names from the working directory down, none for the working directory itself. Where a place
lies outside of it, the root and the names from there. -/
abbrev Place := List String

namespace Place

def root : String := "/"

def start (path : String) : Place := if Path.isAbsolute path then [root] else []

def isBelow (p : Place) : Bool := p.head? != some root

end Place

inductive Device
  | sink
  | full
  | terminal
  | input
  | output
  | errors
  deriving DecidableEq, Repr

/-- What a system has around a working directory, apart from files and directories. -/
structure Surroundings where
  above : Place := [Place.root]
  links : List (Place × Place) := []
  devices : List (Place × Device) := []
  /-- Directories that show what runs on the system; nothing can be made in them. -/
  displays : List Place := []
  deriving Repr, Inhabited

namespace Surroundings

/-- The directory that a place lies in; the root lies in itself. -/
def up (s : Surroundings) (p : Place) : Place :=
  if p.isEmpty then s.above else if p == [Place.root] then p else p.dropLast

/-- One name further; two dots lead up from where links have led. -/
def advance (s : Surroundings) (p : Place) (name : String) : Place :=
  if name == "." then p
  else if name == ".." then s.up p
  else (s.links.lookup (p ++ [name])).getD (p ++ [name])

def device? (s : Surroundings) (p : Place) : Option Device := s.devices.lookup p

def isSealed (s : Surroundings) (p : Place) : Bool := s.displays.any (·.isPrefixOf p)

end Surroundings

end BpmnWorkflow
