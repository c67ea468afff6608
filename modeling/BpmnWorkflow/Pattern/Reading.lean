import BpmnWorkflow.Pattern.Class

/-!
# Reading patterns

Which patterns can be used. A pattern is a row of branches, each a row of parts that may be
repeated, and a group is such a row in parentheses. Patterns are written between braces, so that
none has a brace for the end of a count, and a count cannot be read.
-/

namespace BpmnWorkflow.Pattern

inductive Fault
  | malformed
  /-- Where words end depends on tables that are not available. -/
  | wordBoundary
  deriving DecidableEq, Repr

def Fault.message : Fault → String
  | malformed => "error building NFA"
  | wordBoundary =>
    "unsupported regex feature for DFAs: cannot build DFAs for regexes with Unicode word " ++
      "boundaries; switch to ASCII word boundaries, or heuristically enable Unicode word " ++
      "boundaries or use a different regex engine"

/-! ### Groups -/

inductive Opening
  /-- Modes for what follows in the same group. -/
  | modes (m : Modes)
  | group (m : Modes) (name : Option (List Char))
  deriving DecidableEq, Repr

def isGroupName : List Char → Bool
  | [] => false
  | first :: others =>
    (first == '_' || Text.isAlphabetic first) &&
      others.all fun c => c == '_' || c == '.' || c == '[' || c == ']' || Text.isAlphanumeric c

def openNamed (m : Modes) (s : List Char) : Option (Opening × List Char) :=
  let name := s.takeWhile (· != '>')
  match s.dropWhile (· != '>') with
  | _ :: rest => if isGroupName name then some (.group m (some name), rest) else none
  | [] => none

/-- Reads what follows a parenthesis. Groups that look around are not available. -/
def openGroup (m : Modes) : List Char → Option (Opening × List Char)
  | '?' :: '<' :: '=' :: _ | '?' :: '<' :: '!' :: _ => none
  | '?' :: 'P' :: '<' :: rest | '?' :: '<' :: rest => openNamed m rest
  | '?' :: rest =>
    let flags := rest.takeWhile fun c => c != ':' && c != ')'
    match Modes.areFlags flags, rest.dropWhile fun c => c != ':' && c != ')' with
    | true, ':' :: rest => some (.group (m.apply flags) none, rest)
    | true, ')' :: rest => if flags.isEmpty then none else some (.modes (m.apply flags), rest)
    | _, _ => none
  | rest => some (.group m none, rest)

/-! ### Branches -/

/-- A group that is being read. Modes stand among its parts, but cannot be repeated. -/
structure GroupSoFar where
  modes : Modes := {}
  isWhole : Bool := true
  branches : List Nat := []
  /-- How deep each part of this branch nests, the last one first; nothing stands for modes. -/
  parts : List (Option Nat) := []

namespace GroupSoFar

def add (g : GroupSoFar) (height : Nat) : GroupSoFar := { g with parts := some height :: g.parts }

def branch (g : GroupSoFar) : Nat := heightOfRow (g.parts.map (·.getD 0))

def height (g : GroupSoFar) : Nat := heightOfRow (g.branch :: g.branches)

def repeated? (g : GroupSoFar) : Option GroupSoFar :=
  match g.parts with
  | some height :: before => some { g with parts := some (height + 1) :: before }
  | _ => none

end GroupSoFar

structure Scan where
  rest : List Char
  names : List (List Char) := []
  asksForWords : Bool := false

/-- Reads a group up to its end. The first number bounds the steps. -/
def readGroup : Nat → GroupSoFar → Scan → Option (Nat × Scan)
  | 0, _, _ => none
  | steps + 1, g, scan =>
    match g.modes.skip scan.rest with
    | [] => if g.isWhole then some (g.height, { scan with rest := [] }) else none
    | ')' :: rest => if g.isWhole then none else some (g.height, { scan with rest })
    | '|' :: rest =>
      readGroup steps { g with branches := g.branch :: g.branches, parts := [] } { scan with rest }
    | '(' :: rest =>
      match openGroup g.modes (g.modes.skip rest) with
      | none => none
      | some (.modes m, rest) =>
        readGroup steps { g with modes := m, parts := none :: g.parts } { scan with rest }
      | some (.group m name, rest) =>
        if name.any scan.names.contains then none
        else
          let inner : GroupSoFar := { modes := m, isWhole := false }
          match readGroup steps inner { scan with rest, names := name.toList ++ scan.names } with
          | none => none
          | some (height, scan) => readGroup steps (g.add (height + 1)) scan
    | '[' :: rest =>
      match readClass g.modes rest with
      | none => none
      | some (height, rest) => readGroup steps (g.add height) { scan with rest }
    | '\x7b' :: _ => none
    | c :: rest =>
      if c == '?' || c == '*' || c == '+' then
        match g.repeated? with
        | none => none
        | some g =>
          let lazy := rest.head? == some '?'
          readGroup steps g { scan with rest := if lazy then rest.tail else rest }
      else
        match readAtom g.modes (c :: rest) with
        | none => none
        | some (atom, rest) =>
          if atom.isAllowed g.modes then
            let asksForWords := scan.asksForWords || atom.asksForWords g.modes
            readGroup steps (g.add 0) { scan with rest, asksForWords }
          else none

def deepest : Nat := 250

def fault? (pattern : List Char) : Option Fault :=
  match readGroup (pattern.length + 1) {} { rest := pattern } with
  | none => some .malformed
  | some (height, scan) =>
    if deepest < height then some .malformed
    else if scan.asksForWords then some .wordBoundary
    else none

end BpmnWorkflow.Pattern
