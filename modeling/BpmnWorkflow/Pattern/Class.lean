import BpmnWorkflow.Pattern.Atom

/-!
# Classes of characters

Between brackets a pattern lists characters, ranges, named classes and further classes, and may
combine lists by operators. What counts is whether a class can be read and how deep it nests.
-/

namespace BpmnWorkflow.Pattern

/-- How deep parts nest that stand side by side; one alone adds no level. -/
def heightOfRow : List Nat → Nat
  | [] => 0
  | [height] => height
  | heights => heights.foldl max 0 + 1

/-- A class that is being read: what stands before the last operator, and the items after it. -/
structure ClassSoFar where
  left : Option Nat := none
  items : List Nat := []

namespace ClassSoFar

def add (c : ClassSoFar) (height : Nat) : ClassSoFar := { c with items := height :: c.items }

def height (c : ClassSoFar) : Nat :=
  let right := heightOfRow c.items
  match c.left with
  | none => right
  | some left => max left right + 1

def operate (c : ClassSoFar) : ClassSoFar := { left := some c.height }

end ClassSoFar

/-! ### Items -/

def classNames : List String :=
  ["alnum", "alpha", "ascii", "blank", "cntrl", "digit", "graph", "lower", "print", "punct", "space",
    "upper", "word", "xdigit"]

def namedClass? : List Char → Option (Bool × List Char)
  | ':' :: rest =>
    let negated := rest.head? == some '^'
    let named := if negated then rest.tail else rest
    match named.dropWhile (· != ':') with
    | ':' :: ']' :: rest =>
      if classNames.contains (.ofList (named.takeWhile (· != ':'))) then some (negated, rest) else none
    | _ => none
  | _ => none

/-- Named classes have characters that can be alike, and negated ones have bytes beyond ASCII. -/
def isNamedAllowed (m : Modes) (negated : Bool) : Bool :=
  if m.unicode then !m.foldsCase else !negated

def readItem (m : Modes) : List Char → Option (Atom × List Char)
  | [] => none
  | '\\' :: rest => readEscape m rest
  | c :: rest => some (.literal c false, rest)

/-- The character after a dash. A number sign hides no more than itself and the blanks after it. -/
def peek (m : Modes) (s : List Char) : Option Char :=
  if m.spaced then
    match s.dropWhile Text.isBlank with
    | [] => s.head?
    | '#' :: rest => (rest.dropWhile Text.isBlank).head?.or s.head?
    | c :: _ => some c
  else s.head?

/-- Reads a character, a shorthand or a range. A dash before the closing bracket or before another
dash makes no range. -/
def readRange (m : Modes) (s : List Char) : Option (List Char) :=
  match readItem m s with
  | none => none
  | some (first, rest) =>
    let rest := m.skip rest
    let ends := rest.head? != some '-' || peek m rest.tail == some ']' || peek m rest.tail == some '-'
    if ends then if first.isAllowedInClass m then some rest else none
    else
      match first, readItem m (m.skip rest.tail) with
      | .literal low byte, some (.literal high byte', rest) =>
        let allowed := Atom.isAllowedInClass m (.literal low byte) &&
          Atom.isAllowedInClass m (.literal high byte')
        if low ≤ high && allowed then some rest else none
      | _, _ => none

/-! ### Brackets -/

def leadingDashes (spaced inComment : Bool) (count : Nat) : List Char → Nat × List Char
  | [] => (count, [])
  | c :: rest =>
    if inComment then leadingDashes spaced (c != '\n') count rest
    else if c == '-' then leadingDashes spaced false (count + 1) rest
    else if spaced && Text.isBlank c then leadingDashes spaced false count rest
    else if spaced && c == '#' then leadingDashes spaced true count rest
    else (count, c :: rest)

/-- Begins a class after its bracket. Dashes in front stand for themselves, and so does a closing
bracket. A negated class of bytes goes beyond ASCII. -/
def openClass (m : Modes) (s : List Char) : Option (ClassSoFar × List Char) :=
  let s := m.skip s
  let negated := s.head? == some '^'
  let (dashes, rest) := leadingDashes m.spaced false 0 (if negated then s.tail else s)
  let bracket := dashes == 0 && rest.head? == some ']'
  let items := if bracket then 1 else dashes
  if (negated && !m.unicode) || (items != 0 && !Atom.isAllowedInClass m (.literal '-' false)) then none
  else some ({ items := .replicate items 0 }, if bracket then rest.tail else rest)

/-- Reads a class up to its closing bracket. The first number bounds the steps. -/
def readItems (m : Modes) : Nat → ClassSoFar → List Char → Option (Nat × List Char)
  | 0, _, _ => none
  | steps + 1, soFar, s =>
    match m.skip s with
    | [] => none
    | ']' :: rest => some (soFar.height, rest)
    | '&' :: '&' :: rest | '-' :: '-' :: rest | '~' :: '~' :: rest =>
      readItems m steps soFar.operate rest
    | '[' :: rest =>
      match namedClass? rest with
      | some (negated, rest) =>
        if isNamedAllowed m negated then readItems m steps (soFar.add 0) rest else none
      | none =>
        match openClass m rest with
        | none => none
        | some (opened, rest) =>
          match readItems m steps opened rest with
          | none => none
          | some (height, rest) => readItems m steps (soFar.add (height + 1)) rest
    | c :: rest =>
      match readRange m (c :: rest) with
      | none => none
      | some rest => readItems m steps (soFar.add 0) rest

def readClass (m : Modes) (s : List Char) : Option (Nat × List Char) :=
  match openClass m s with
  | none => none
  | some (opened, rest) =>
    (readItems m (rest.length + 1) opened rest).map fun (height, rest) => (height + 1, rest)

end BpmnWorkflow.Pattern
