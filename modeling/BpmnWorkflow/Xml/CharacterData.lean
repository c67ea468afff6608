import BpmnWorkflow.Text.Digit
import BpmnWorkflow.Xml.Character

/-!
# Character data

What the characters between markup and in attribute values stand for: references are replaced by
their characters, and line ends written as such are made uniform.
-/

namespace BpmnWorkflow.Xml

structure DataChar where
  char : Char
  referenced : Bool
  deriving DecidableEq, Repr

/-! ### References -/

/-- The largest number that a character reference may hold. -/
def largestReference : Nat := 4294967295

/-- The number that the digits before the semicolon write; there must be one. -/
def referencedNumber? (base : Nat) : Option Nat → List Char → Option (Nat × List Char)
  | value, ';' :: rest => value.map (·, rest)
  | value, c :: rest => do
    let digit ← Text.digitValue? base c
    let next := value.getD 0 * base + digit
    if next ≤ largestReference then referencedNumber? base (some next) rest else none
  | _, [] => none

/-- A number that is no character stands for the replacement character. -/
def referencedChar? (number : Nat) : Option Char :=
  let c := if h : number.isValidChar then Char.ofNatAux number h else '\uFFFD'
  if isAllowed c then some c else none

/-- The reference after an ampersand: a number or one of the five names. -/
def readReference : List Char → Option (Char × List Char)
  | '#' :: 'x' :: rest => do
    let (number, rest) ← referencedNumber? 16 none rest
    let c ← referencedChar? number
    some (c, rest)
  | '#' :: rest => do
    let (number, rest) ← referencedNumber? 10 none rest
    let c ← referencedChar? number
    some (c, rest)
  | 'q' :: 'u' :: 'o' :: 't' :: ';' :: rest => some ('"', rest)
  | 'a' :: 'm' :: 'p' :: ';' :: rest => some ('&', rest)
  | 'a' :: 'p' :: 'o' :: 's' :: ';' :: rest => some ('\'', rest)
  | 'l' :: 't' :: ';' :: rest => some ('<', rest)
  | 'g' :: 't' :: ';' :: rest => some ('>', rest)
  | _ => none

theorem length_referencedNumber? {base number : Nat} {value : Option Nat} {s rest : List Char}
    (h : referencedNumber? base value s = some (number, rest)) : rest.length < s.length := by
  induction s generalizing value with
  | nil => simp [referencedNumber?] at h
  | cons c s ih =>
    unfold referencedNumber? at h
    split at h
    · rename_i heq
      cases heq
      simp only [Option.map_eq_some_iff, Prod.mk.injEq] at h
      obtain ⟨_, _, -, rfl⟩ := h
      simp
    · rename_i heq
      cases heq
      simp only [Option.bind_eq_bind, Option.bind_eq_some_iff] at h
      obtain ⟨digit, -, h⟩ := h
      split at h
      · exact Nat.lt_succ_of_lt (ih h)
      · cases h
    · rename_i heq
      cases heq

theorem length_readReference {c : Char} {s rest : List Char}
    (h : readReference s = some (c, rest)) : rest.length < s.length := by
  unfold readReference at h
  split at h
  · simp only [Option.bind_eq_bind, Option.bind_eq_some_iff] at h
    obtain ⟨⟨number, rest'⟩, hn, c', -, h⟩ := h
    simp only [Option.some.injEq, Prod.mk.injEq] at h
    obtain ⟨-, rfl⟩ := h
    have := length_referencedNumber? hn
    simp only [List.length_cons]
    omega
  · simp only [Option.bind_eq_bind, Option.bind_eq_some_iff] at h
    obtain ⟨⟨number, rest'⟩, hn, c', -, h⟩ := h
    simp only [Option.some.injEq, Prod.mk.injEq] at h
    obtain ⟨-, rfl⟩ := h
    have := length_referencedNumber? hn
    simp only [List.length_cons]
    omega
  all_goals first
    | (simp only [Option.some.injEq, Prod.mk.injEq] at h
       obtain ⟨-, rfl⟩ := h
       simp only [List.length_cons]
       omega)
    | cases h

def decodeReferences : List Char → Option (List DataChar)
  | [] => some []
  | '&' :: s =>
    match _read : readReference s with
    | some (c, rest) => (decodeReferences rest).map (⟨c, true⟩ :: ·)
    | none => none
  | c :: s => (decodeReferences s).map (⟨c, false⟩ :: ·)
termination_by s => s.length
decreasing_by
  · have := length_readReference _read
    simp only [List.length_cons]
    omega
  · simp

/-! ### Line ends -/

/--
Text with uniform line ends, built from `done` (last character first). A carriage return written
as such becomes a line feed, and so does one before a line feed, together with it. A character
next to a reference before it is taken as it is, hence `afterReference`.
-/
def joinLines (afterReference : Bool) (done : List Char) : List DataChar → List Char
  | [] => done.reverse
  | ⟨c, true⟩ :: rest => joinLines true (c :: done) rest
  | ⟨c, false⟩ :: rest =>
    if afterReference then joinLines false (c :: done) rest
    else
      let settled :=
        match done with
        | '\r' :: before => if c = '\n' then '\n' :: before else c :: '\n' :: before
        | _ => c :: done
      match rest, settled with
      | [], '\r' :: before => ('\n' :: before).reverse
      | _, _ => joinLines false settled rest

def decodeText (raw : List Char) : Option String :=
  (decodeReferences raw).map fun cs => String.ofList (joinLines false [] cs)

def decodeLiteral (raw : List Char) : String :=
  String.ofList (joinLines false [] (raw.map (⟨·, false⟩)))

/-- White space written as such becomes a space, a carriage return with its line feed one space. -/
def spaceOut : List DataChar → List Char
  | ⟨'\r', false⟩ :: ⟨'\n', false⟩ :: rest => ' ' :: spaceOut rest
  | ⟨c, false⟩ :: rest => (if isSpace c then ' ' else c) :: spaceOut rest
  | ⟨c, true⟩ :: rest => c :: spaceOut rest
  | [] => []

def decodeValue (raw : List Char) : Option String :=
  (decodeReferences raw).map fun cs => String.ofList (spaceOut cs)

end BpmnWorkflow.Xml
