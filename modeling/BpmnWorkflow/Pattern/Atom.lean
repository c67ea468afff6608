import BpmnWorkflow.Text.Alphanumeric
import BpmnWorkflow.Text.Blank
import BpmnWorkflow.Text.Digit

/-!
# Atoms of a pattern

A pattern is a regular expression. Its smallest parts are characters, escapes and anchors. Patterns
match texts and know no tables of letters: where characters count as such, kinds of letters and the
likeness of capital and small ones are not available, and where bytes count, nothing may match half
of a character.
-/

namespace BpmnWorkflow.Pattern

/-! ### Modes -/

structure Modes where
  foldsCase : Bool := false
  /-- Characters count, not bytes. -/
  unicode : Bool := true
  spaced : Bool := false
  deriving DecidableEq, Repr

namespace Modes

/-- The letters of the modes. Some are about matching alone. -/
def letters : List Char := ['i', 'm', 's', 'U', 'u', 'R', 'x']

/-- Letters name modes once each. Those after a dash are turned off, and the dash is not last. -/
def areFlags (flags : List Char) : Bool :=
  flags.all (fun c => c == '-' || letters.contains c) && flags.Nodup && flags.getLast? != some '-'

def apply (m : Modes) (flags : List Char) : Modes :=
  let turned (letter : Char) (before : Bool) : Bool :=
    if flags.contains letter then (flags.takeWhile (· != '-')).contains letter else before
  { foldsCase := turned 'i' m.foldsCase
    unicode := turned 'u' m.unicode
    spaced := turned 'x' m.spaced }

end Modes

/-- What follows blanks and comments, each from a number sign to the end of the line. -/
def skipBlanks (inComment : Bool) : List Char → List Char
  | [] => []
  | c :: rest =>
    if inComment then skipBlanks (c != '\n') rest
    else if Text.isBlank c then skipBlanks false rest
    else if c == '#' then skipBlanks true rest
    else c :: rest

def Modes.skip (m : Modes) (s : List Char) : List Char := if m.spaced then skipBlanks false s else s

/-! ### Atoms -/

inductive Atom
  /-- A character, which two digits may stand for as a byte. -/
  | literal (c : Char) (byte : Bool)
  /-- A letter for digits, blanks or the characters of words, or for all others. -/
  | shorthand (negated : Bool)
  | any
  | anchor
  | wordBoundary
  deriving DecidableEq, Repr

namespace Atom

def isAllowed (m : Modes) : Atom → Bool
  | literal c byte => if m.unicode then !m.foldsCase else c.toNat < 0x80 || !byte
  | shorthand negated => !m.unicode && !negated
  | any => m.unicode
  | anchor | wordBoundary => true

def isAllowedInClass (m : Modes) : Atom → Bool
  | literal c _ => if m.unicode then !m.foldsCase else c.toNat < 0x80
  | shorthand negated => !m.unicode && !negated
  | any | anchor | wordBoundary => false

def asksForWords (m : Modes) (a : Atom) : Bool := a == wordBoundary && m.unicode

end Atom

/-! ### Escapes -/

def hexWidth? (c : Char) : Option Nat := [('x', 2), ('u', 4), ('U', 8)].lookup c

def readHex (m : Modes) : Nat → Nat → List Char → Option (Nat × List Char)
  | 0, n, s => some (n, s)
  | width + 1, n, s =>
    match m.skip s with
    | [] => none
    | c :: rest =>
      match Text.digitValue? 16 c with
      | none => none
      | some d => readHex m width (16 * n + d) rest

def controls : List (Char × Char) :=
  [('a', '\x07'), ('f', '\x0C'), ('t', '\t'), ('n', '\n'), ('r', '\r'), ('v', '\x0B')]

/-- What one character after a backslash stands for. Letters and digits without a meaning are kept
free for one, and so is all beyond ASCII. -/
def escaped? (c : Char) : Option Atom :=
  if "dsw".contains c then some (.shorthand false)
  else if "DSW".contains c then some (.shorthand true)
  else if "Az".contains c then some .anchor
  else if "bB<>".contains c then some .wordBoundary
  else
    match controls.lookup c with
    | some control => some (.literal control false)
    | none => if c.toNat < 0x80 && !c.isAlphanum then some (.literal c false) else none

def readEscape (m : Modes) : List Char → Option (Atom × List Char)
  | [] => none
  | c :: rest =>
    match hexWidth? c with
    | none => (escaped? c).map (·, rest)
    | some width =>
      match readHex m width 0 rest with
      | none => none
      | some (n, rest) => if n.isValidChar then some (.literal (.ofNat n) (c == 'x'), rest) else none

def readAtom (m : Modes) : List Char → Option (Atom × List Char)
  | [] => none
  | '\\' :: rest => readEscape m rest
  | c :: rest =>
    if c == '.' then some (.any, rest)
    else if c == '^' || c == '$' then some (.anchor, rest)
    else some (.literal c false, rest)

end BpmnWorkflow.Pattern
