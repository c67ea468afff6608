import BpmnWorkflow.Text.Digit
import BpmnWorkflow.Yaml.Resolution

/-!
# Scalars

The four ways to write a text: plain, between single quotes, between double quotes with escapes, or
literally as lines of their own. A text with a line feed is literal and any other text plain, unless
reading it back would give something else.
-/

namespace BpmnWorkflow.Yaml

/-! ### Characters -/

def isBreak (c : Char) : Bool :=
  c == '\n' || c == '\r' || c == '\u0085' || c == '\u2028' || c == '\u2029'

/-- Space, tab, break, or the mark for the end of a text. -/
def isBlank (c : Char) : Bool := c == ' ' || c == '\t' || c == '\x00' || isBreak c

def isPrintable (c : Char) : Bool :=
  let n := c.toNat
  n == 0x0A || (0x20 ≤ n && n ≤ 0x7E) || (0xA0 ≤ n && n ≤ 0xD7FF) ||
    (0xE000 ≤ n && n ≤ 0xFFFD && n != 0xFEFF) || 0x10000 ≤ n

/-! ### What stands in the way of a style -/

/-- Whether some character of the first kind stands directly before one of the second. -/
def hasPair (first second : Char → Bool) : List Char → Bool
  | a :: b :: rest => (first a && second b) || hasPair first second (b :: rest)
  | _ => false

/-- Only escapes can show such a text. -/
def needsEscapes (s : List Char) : Bool :=
  s.any (fun c => !isPrintable c) || hasPair (· == ' ') isBreak s

def indicators : List Char := "#,[]\x7b\x7d&*!|>'\"%@\x60".toList

def beginsWithIndicator (s : List Char) : Bool :=
  "---".toList.isPrefixOf s || "...".toList.isPrefixOf s ||
    match s with
    | [] => false
    | c :: rest =>
      indicators.contains c || ((c == '?' || c == ':' || c == '-') && rest.head?.all isBlank)

def containsIndicator (s : List Char) : Bool :=
  hasPair (· == ':') isBlank s || s.getLast? == some ':' || hasPair isBlank (· == '#') s

def hasOuterSpace (s : List Char) : Bool := s.head? == some ' ' || s.getLast? == some ' '

inductive ScalarStyle
  | plain
  | singleQuoted
  | doubleQuoted
  | literal
  deriving DecidableEq, Repr

def ScalarStyle.of (s : List Char) : ScalarStyle :=
  if needsEscapes s then .doubleQuoted
  else if s.contains '\n' then
    if s.getLast? == some ' ' then .doubleQuoted else .literal
  else if hasPair isBreak (· == ' ') s then .doubleQuoted
  else if isAmbiguous s || s.any isBreak || hasOuterSpace s || beginsWithIndicator s ||
      containsIndicator s then .singleQuoted
  else .plain

/-! ### Writing -/

def spaces (n : Nat) : List Char := List.replicate n ' '

def indentLines (indent : Nat) (atStart : Bool) : List Char → List Char
  | [] => []
  | c :: rest =>
    if isBreak c then c :: indentLines indent true rest
    else (if atStart then spaces indent else []) ++ c :: indentLines indent false rest

/-- A quote is written twice. -/
def singleQuoted (indent : Nat) (s : List Char) : List Char :=
  let doubled := s.flatMap fun c => if c == '\'' then [c, c] else [c]
  let closing := if s.getLast?.any isBreak then spaces indent else []
  '\'' :: indentLines indent false doubled ++ closing ++ ['\'']

def hexDigits (width n : Nat) : List Char :=
  match width with
  | 0 => []
  | width + 1 => hexDigits width (n / 16) ++ [Text.hexDigit 'A' (n % 16)]

def shortEscape? (c : Char) : Option Char :=
  [('\x00', '0'), ('\x07', 'a'), ('\x08', 'b'), ('\t', 't'), ('\n', 'n'), ('\x0B', 'v'),
    ('\x0C', 'f'), ('\r', 'r'), ('\x1B', 'e'), ('"', '"'), ('\\', '\\'), ('\u0085', 'N'),
    ('\u2028', 'L'), ('\u2029', 'P')].lookup c

def escapeChar (c : Char) : List Char :=
  match shortEscape? c with
  | some e => ['\\', e]
  | none =>
    if isPrintable c then [c]
    else if c.toNat ≤ 0xFF then '\\' :: 'x' :: hexDigits 2 c.toNat
    else if c.toNat ≤ 0xFFFF then '\\' :: 'u' :: hexDigits 4 c.toNat
    else '\\' :: 'U' :: hexDigits 8 c.toNat

def doubleQuoted (s : List Char) : List Char := '"' :: s.flatMap escapeChar ++ ['"']

/-- What the header of literal lines says: their indentation if the first one hides it, and what
becomes of the breaks at the end. -/
def literalHints (s : List Char) : List Char :=
  let indentation := if s.head?.any fun c => c == ' ' || isBreak c then ['2'] else []
  let ending :=
    match s.reverse with
    | [] => ['-']
    | last :: before =>
      if !isBreak last then ['-'] else if before.head?.all isBreak then ['+'] else []
  indentation ++ ending

/-- A text and the end of its line; what goes on in another line is indented. -/
def scalarLine (indent : Nat) (s : List Char) : List Char :=
  match ScalarStyle.of s with
  | .plain => s ++ ['\n']
  | .singleQuoted => singleQuoted indent s ++ ['\n']
  | .doubleQuoted => doubleQuoted s ++ ['\n']
  | .literal =>
    '|' :: literalHints s ++ '\n' :: indentLines indent true s ++
      if s.getLast?.any isBreak then [] else ['\n']

/-! ### Keys -/

def isSimpleKey (s : String) : Bool := !s.toList.any isBreak && s.utf8ByteSize ≤ 128

def simpleKey (s : List Char) : List Char :=
  match ScalarStyle.of s with
  | .plain => s
  | .doubleQuoted => doubleQuoted s
  | _ => singleQuoted 0 s

end BpmnWorkflow.Yaml
