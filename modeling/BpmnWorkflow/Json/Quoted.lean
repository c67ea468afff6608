import BpmnWorkflow.Text.Digit

/-!
# Quoted strings

How a text is written between quotes and what the characters between quotes stand for. An escape
of four hexadecimal digits is a unit of UTF-16, so a text may need two of them in a row; units that
do not pair up stand for no text.
-/

namespace BpmnWorkflow.Json

/-! ### Writing -/

def escapeChar (c : Char) : List Char :=
  if c = '"' then ['\\', '"']
  else if c = '\\' then ['\\', '\\']
  else if c = '\x08' then ['\\', 'b']
  else if c = '\x0C' then ['\\', 'f']
  else if c = '\n' then ['\\', 'n']
  else if c = '\r' then ['\\', 'r']
  else if c = '\t' then ['\\', 't']
  else if c.toNat < 0x20 then
    ['\\', 'u', '0', '0', Text.hexDigit 'a' (c.toNat / 16), Text.hexDigit 'a' (c.toNat % 16)]
  else [c]

def escape (cs : List Char) : List Char := cs.flatMap escapeChar

def quoted (s : String) : List Char := '"' :: escape s.toList ++ ['"']

/-! ### Reading -/

/-- A character between quotes, or a unit of UTF-16 that an escape gives. -/
inductive Piece
  | char (c : Char)
  | unit (n : Nat)
  deriving DecidableEq, Repr

def unit? (a b c d : Char) : Option Nat := do
  let a ← Text.digitValue? 16 a
  let b ← Text.digitValue? 16 b
  let c ← Text.digitValue? 16 c
  let d ← Text.digitValue? 16 d
  some (((a * 16 + b) * 16 + c) * 16 + d)

def shortEscape? : Char → Option Char
  | '"' => some '"'
  | '\\' => some '\\'
  | '/' => some '/'
  | 'b' => some '\x08'
  | 'f' => some '\x0C'
  | 'n' => some '\n'
  | 'r' => some '\r'
  | 't' => some '\t'
  | _ => none

/-- The pieces up to the closing quote. A control character must be escaped. -/
def readPieces : List Char → Option (List Piece × List Char)
  | '"' :: s => some ([], s)
  | '\\' :: 'u' :: a :: b :: c :: d :: s => do
    let n ← unit? a b c d
    let (pieces, rest) ← readPieces s
    some (.unit n :: pieces, rest)
  | '\\' :: e :: s => do
    let c ← shortEscape? e
    let (pieces, rest) ← readPieces s
    some (.char c :: pieces, rest)
  | c :: s =>
    if c.toNat < 0x20 || c = '\\' then none
    else (readPieces s).map fun (pieces, rest) => (.char c :: pieces, rest)
  | [] => none

def isHighSurrogate (n : Nat) : Bool := 0xD800 ≤ n && n ≤ 0xDBFF

def isLowSurrogate (n : Nat) : Bool := 0xDC00 ≤ n && n ≤ 0xDFFF

def decode : List Piece → Option (List Char)
  | [] => some []
  | .char c :: rest => (decode rest).map (c :: ·)
  | .unit high :: rest =>
    if isHighSurrogate high then
      match rest with
      | .unit low :: rest =>
        if isLowSurrogate low then
          (decode rest).map (Char.ofNat (0x10000 + (high - 0xD800) * 0x400 + (low - 0xDC00)) :: ·)
        else none
      | _ => none
    else if isLowSurrogate high then none
    else (decode rest).map (Char.ofNat high :: ·)

theorem length_readPieces {s rest : List Char} {pieces : List Piece}
    (h : readPieces s = some (pieces, rest)) : rest.length < s.length := by
  fun_induction readPieces s generalizing pieces rest with
  | case1 s =>
    cases h
    exact Nat.lt_succ_self _
  | case2 a b c d s ih =>
    simp only [Option.bind_eq_bind, Option.bind_eq_some_iff, Option.some.injEq, Prod.mk.injEq] at h
    obtain ⟨_, -, ⟨_, _⟩, more, -, rfl⟩ := h
    have := ih more
    simp only [List.length_cons]
    omega
  | case3 e s _ ih =>
    simp only [Option.bind_eq_bind, Option.bind_eq_some_iff, Option.some.injEq, Prod.mk.injEq] at h
    obtain ⟨_, -, ⟨_, _⟩, more, -, rfl⟩ := h
    have := ih more
    simp only [List.length_cons]
    omega
  | case4 => cases h
  | case5 c s _ _ _ _ ih =>
    simp only [Option.map_eq_some_iff, Prod.mk.injEq] at h
    obtain ⟨⟨_, _⟩, more, -, rfl⟩ := h
    exact Nat.lt_succ_of_lt (ih more)
  | case6 => cases h

end BpmnWorkflow.Json
