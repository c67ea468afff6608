import BpmnWorkflow.Json.Number
import BpmnWorkflow.Json.Quoted

/-!
# Tokens

A text is read as a row of tokens with the space between them left out. Where no token begins the
row ends with a mark, so that whoever reads it meets every fault at its place.
-/

namespace BpmnWorkflow.Json

inductive Token
  | beginObject
  | endObject
  | beginArray
  | endArray
  | colon
  | comma
  | null
  | bool (b : Bool)
  | number (negative : Bool) (magnitude : Decimal)
  /-- Without content if its escapes stand for no text. -/
  | string (content : Option String)
  | invalid
  deriving DecidableEq, Repr

def isSpace (c : Char) : Bool := c == ' ' || c == '\n' || c == '\t' || c == '\r'

/-! ### Numbers -/

def readScale (s : List Char) : Option (Int × List Char) :=
  match s with
  | 'e' :: rest => Decimal.readExponent rest
  | 'E' :: rest => Decimal.readExponent rest
  | _ => some (0, s)

def readFraction (s : List Char) : Option (List Char × List Char) :=
  match s with
  | '.' :: rest =>
    let digits := rest.takeWhile Char.isDigit
    if digits.isEmpty then none else some (digits, rest.dropWhile Char.isDigit)
  | _ => some ([], s)

/-- The digits before the point: a zero stands alone. -/
def readWhole (s : List Char) : Option (List Char × List Char) :=
  let digits := s.takeWhile Char.isDigit
  match digits with
  | [] => none
  | '0' :: _ :: _ => none
  | _ => some (digits, s.dropWhile Char.isDigit)

def readMagnitude (s : List Char) : Option (Decimal × List Char) := do
  let (whole, s) ← readWhole s
  let (fraction, s) ← readFraction s
  let (scale, rest) ← readScale s
  some (keptNumber whole fraction scale, rest)

/-! ### Tokens -/

def ofPieces (pieces : List Piece) : Token := .string ((decode pieces).map String.ofList)

def readToken : List Char → Option (Token × List Char)
  | '{' :: s => some (.beginObject, s)
  | '}' :: s => some (.endObject, s)
  | '[' :: s => some (.beginArray, s)
  | ']' :: s => some (.endArray, s)
  | ':' :: s => some (.colon, s)
  | ',' :: s => some (.comma, s)
  | 'n' :: 'u' :: 'l' :: 'l' :: s => some (.null, s)
  | 't' :: 'r' :: 'u' :: 'e' :: s => some (.bool true, s)
  | 'f' :: 'a' :: 'l' :: 's' :: 'e' :: s => some (.bool false, s)
  | '"' :: s => (readPieces s).map fun (pieces, rest) => (ofPieces pieces, rest)
  | '-' :: s => (readMagnitude s).map fun (magnitude, rest) => (.number true magnitude, rest)
  | s => (readMagnitude s).map fun (magnitude, rest) => (.number false magnitude, rest)

theorem length_readWhole {s digits rest : List Char} (h : readWhole s = some (digits, rest)) :
    rest.length < s.length := by
  unfold readWhole at h
  have split' : s = s.takeWhile Char.isDigit ++ s.dropWhile Char.isDigit :=
    List.takeWhile_append_dropWhile.symm
  dsimp only at h
  split at h
  · cases h
  · cases h
  · rename_i nonempty _
    simp only [Option.some.injEq, Prod.mk.injEq] at h
    obtain ⟨-, rfl⟩ := h
    have := List.length_pos_iff.mpr nonempty
    have := congrArg List.length split'
    rw [List.length_append] at this
    omega

theorem length_readFraction {s digits rest : List Char} (h : readFraction s = some (digits, rest)) :
    rest.length ≤ s.length := by
  unfold readFraction at h
  split at h
  · dsimp only at h
    split at h
    · cases h
    · simp only [Option.some.injEq, Prod.mk.injEq] at h
      obtain ⟨-, rfl⟩ := h
      exact Nat.le_succ_of_le (List.dropWhile_sublist _).length_le
  · cases h
    exact Nat.le_refl _

theorem length_readScale {s rest : List Char} {n : Int} (h : readScale s = some (n, rest)) :
    rest.length ≤ s.length := by
  unfold readScale at h
  split at h
  · exact Nat.le_succ_of_le (Decimal.length_readExponent h)
  · exact Nat.le_succ_of_le (Decimal.length_readExponent h)
  · cases h
    exact Nat.le_refl _

theorem length_readMagnitude {s rest : List Char} {magnitude : Decimal}
    (h : readMagnitude s = some (magnitude, rest)) : rest.length < s.length := by
  simp only [readMagnitude, Option.bind_eq_bind, Option.bind_eq_some_iff, Option.some.injEq,
    Prod.mk.injEq] at h
  obtain ⟨⟨_, _⟩, whole, ⟨_, _⟩, fraction, ⟨_, _⟩, scale, -, rfl⟩ := h
  exact Nat.lt_of_le_of_lt (Nat.le_trans (length_readScale scale) (length_readFraction fraction))
    (length_readWhole whole)

theorem length_readToken {s rest : List Char} {token : Token}
    (h : readToken s = some (token, rest)) : rest.length < s.length := by
  unfold readToken at h
  split at h
  case h_10 =>
    simp only [Option.map_eq_some_iff, Prod.mk.injEq] at h
    obtain ⟨⟨_, _⟩, read, -, rfl⟩ := h
    exact Nat.lt_succ_of_lt (length_readPieces read)
  case h_11 =>
    simp only [Option.map_eq_some_iff, Prod.mk.injEq] at h
    obtain ⟨⟨_, _⟩, read, -, rfl⟩ := h
    exact Nat.lt_succ_of_lt (length_readMagnitude read)
  case h_12 =>
    simp only [Option.map_eq_some_iff, Prod.mk.injEq] at h
    obtain ⟨⟨_, _⟩, read, -, rfl⟩ := h
    exact length_readMagnitude read
  all_goals
    cases h
    simp only [List.length_cons]
    omega

/-- The tokens of a text, up to the first place where none begins. -/
def tokens : List Char → List Token
  | [] => []
  | c :: s =>
    if isSpace c then tokens s
    else
      match _read : readToken (c :: s) with
      | some (token, rest) => token :: tokens rest
      | none => [.invalid]
termination_by s => s.length
decreasing_by
  · exact Nat.lt_succ_self _
  · exact length_readToken _read

end BpmnWorkflow.Json
