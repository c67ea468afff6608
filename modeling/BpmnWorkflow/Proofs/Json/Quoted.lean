import Mathlib.Data.List.Forall2
import Mathlib.Tactic.SplitIfs
import BpmnWorkflow.Json.Quoted

/-!
# Quoted strings

How a text may stand between quotes: each character as itself, by a short escape or by the units of UTF-16 that it
has. However it is written, it is read as the same text, and units that do not pair up are read as none:
`readPieces_of_writesContent`.
-/

namespace BpmnWorkflow.Json

/-! ### Hexadecimal digits -/

def smallDigits : List Char := ['0', '1', '2', '3', '4', '5', '6', '7', '8', '9', 'a', 'b', 'c', 'd', 'e', 'f']

def capitalDigits : List Char := ['0', '1', '2', '3', '4', '5', '6', '7', '8', '9', 'A', 'B', 'C', 'D', 'E', 'F']

/-- The digit stands for this number, in capitals or not. -/
def IsHexDigit (n : Nat) (c : Char) : Prop := smallDigits[n]? = some c ∨ capitalDigits[n]? = some c

def WritesUnit (n : Nat) (digits : List Char) : Prop :=
  ∃ a b c d, digits = [a, b, c, d] ∧ IsHexDigit (n / 0x1000) a ∧ IsHexDigit (n / 0x100 % 0x10) b ∧
    IsHexDigit (n / 0x10 % 0x10) c ∧ IsHexDigit (n % 0x10) d

theorem digitValue?_of_isHexDigit {n : Nat} {c : Char} (digit : IsHexDigit n c) : Text.digitValue? 16 c = some n := by
  have small : ∀ (n : Nat) (h : n < smallDigits.length), Text.digitValue? 16 smallDigits[n] = some n := by decide
  have capital : ∀ (n : Nat) (h : n < capitalDigits.length), Text.digitValue? 16 capitalDigits[n] = some n := by decide
  rcases digit with found | found
  · obtain ⟨bound, rfl⟩ := List.getElem?_eq_some_iff.mp found
    exact small n bound
  · obtain ⟨bound, rfl⟩ := List.getElem?_eq_some_iff.mp found
    exact capital n bound

theorem isHexDigit_hexDigit {n : Nat} (bound : n < 16) : IsHexDigit n (Text.hexDigit 'a' n) := by
  have all : ∀ n < 16, smallDigits[n]? = some (Text.hexDigit 'a' n) := by decide
  exact .inl (all n bound)

theorem WritesUnit.lt {n : Nat} {digits : List Char} (written : WritesUnit n digits) : n < 0x10000 := by
  obtain ⟨_, _, _, _, -, first, -, -, -⟩ := written
  have bound : n / 0x1000 < 16 := by
    rcases first with found | found
    · exact (List.getElem?_eq_some_iff.mp found).1
    · exact (List.getElem?_eq_some_iff.mp found).1
  omega

/-! ### The grammar -/

/-- The escapes of two characters: the second of them, and what it stands for. -/
def shortEscapes : List (Char × Char) :=
  [('"', '"'), ('\\', '\\'), ('/', '/'), ('b', '\x08'), ('f', '\x0C'), ('n', '\n'), ('r', '\r'), ('t', '\t')]

inductive WritesPiece : Piece → List Char → Prop
  | plain {c : Char} (printable : 0x20 ≤ c.toNat) (quote : c ≠ '"') (backslash : c ≠ '\\') :
    WritesPiece (.char c) [c]
  | short {e c : Char} (named : (e, c) ∈ shortEscapes) : WritesPiece (.char c) ['\\', e]
  | unit {n : Nat} {digits : List Char} (written : WritesUnit n digits) :
    WritesPiece (.unit n) ('\\' :: 'u' :: digits)

/-- The pieces stand for these characters. A character beyond the first 65536 takes two units. -/
inductive Encodes : List Piece → List Char → Prop
  | nil : Encodes [] []
  | char {pieces : List Piece} {cs : List Char} (c : Char) (more : Encodes pieces cs) :
    Encodes (.char c :: pieces) (c :: cs)
  | unit {pieces : List Piece} {cs : List Char} (c : Char) (more : Encodes pieces cs) :
    Encodes (.unit c.toNat :: pieces) (c :: cs)
  | pair {pieces : List Piece} {cs : List Char} (c : Char) (beyond : 0x10000 ≤ c.toNat) (more : Encodes pieces cs) :
    Encodes (.unit (0xD800 + (c.toNat - 0x10000) / 0x400) :: .unit (0xDC00 + (c.toNat - 0x10000) % 0x400) :: pieces)
      (c :: cs)

/-- The text that pieces stand for, or none if their units do not pair up. -/
inductive StandsFor (pieces : List Piece) : Option String → Prop
  | text {s : String} (encodes : Encodes pieces s.toList) : StandsFor pieces (some s)
  | nothing (unpaired : ∀ cs, ¬ Encodes pieces cs) : StandsFor pieces none

/-- The ways to write a content between quotes: its pieces one after the other. -/
def WritesContent (content : Option String) (cs : List Char) : Prop :=
  ∃ pieces parts, List.Forall₂ WritesPiece pieces parts ∧ StandsFor pieces content ∧ cs = parts.flatten

theorem writesPiece_escapeChar (c : Char) : ∃ piece, WritesPiece piece (escapeChar c) ∧
    ∀ pieces cs, Encodes pieces cs → Encodes (piece :: pieces) (c :: cs) := by
  have itself : ∀ pieces cs, Encodes pieces cs → Encodes (.char c :: pieces) (c :: cs) := fun _ _ => .char c
  simp only [escapeChar]
  -- the seven characters with a short escape, then the other control characters, then all else
  split_ifs with quote backslash b f n r t control
  · exact ⟨.char c, .short (by simp [shortEscapes, quote]), itself⟩
  · exact ⟨.char c, .short (by simp [shortEscapes, backslash]), itself⟩
  · exact ⟨.char c, .short (by simp [shortEscapes, b]), itself⟩
  · exact ⟨.char c, .short (by simp [shortEscapes, f]), itself⟩
  · exact ⟨.char c, .short (by simp [shortEscapes, n]), itself⟩
  · exact ⟨.char c, .short (by simp [shortEscapes, r]), itself⟩
  · exact ⟨.char c, .short (by simp [shortEscapes, t]), itself⟩
  · have high : c.toNat / 0x1000 = 0 ∧ c.toNat / 0x100 % 0x10 = 0 ∧ c.toNat / 0x10 % 0x10 = c.toNat / 0x10 := by omega
    refine ⟨.unit c.toNat, .unit ⟨'0', '0', _, _, rfl, ?_, ?_, ?_, ?_⟩, fun _ _ => .unit c⟩
    · exact high.1 ▸ .inl rfl
    · exact high.2.1 ▸ .inl rfl
    · rw [high.2.2]
      exact isHexDigit_hexDigit (by omega)
    · exact isHexDigit_hexDigit (by omega)
  · exact ⟨.char c, .plain (Nat.le_of_not_lt control) quote backslash, itself⟩

theorem writesContent_escape (s : String) : WritesContent (some s) (escape s.toList) := by
  suffices written : ∀ cs : List Char, ∃ pieces parts, List.Forall₂ WritesPiece pieces parts ∧ Encodes pieces cs ∧
      escape cs = parts.flatten by
    obtain ⟨pieces, parts, each, encodes, flat⟩ := written s.toList
    exact ⟨pieces, parts, each, .text encodes, flat⟩
  intro cs
  induction cs with
  | nil => exact ⟨[], [], .nil, .nil, rfl⟩
  | cons c cs ih =>
    obtain ⟨pieces, parts, each, encodes, flat⟩ := ih
    obtain ⟨piece, first, extends_⟩ := writesPiece_escapeChar c
    refine ⟨piece :: pieces, escapeChar c :: parts, .cons first each, extends_ _ _ encodes, ?_⟩
    rw [escape, List.flatMap_cons, List.flatten_cons, ← flat, escape]

/-! ### Reading the pieces -/

theorem readPieces_short {e c : Char} (named : (e, c) ∈ shortEscapes) (s : List Char) :
    readPieces ('\\' :: e :: s) = (readPieces s).map fun (pieces, rest) => (.char c :: pieces, rest) := by
  have short : shortEscape? e = some c := by
    have all : ∀ row ∈ shortEscapes, shortEscape? row.1 = some row.2 := by decide
    exact all (e, c) named
  have noUnit : ∀ a b c' d t, e = 'u' → s = a :: b :: c' :: d :: t → False := by
    rintro - - - - - rfl -
    cases short
  rw [readPieces.eq_3 e s noUnit, short]
  cases readPieces s <;> rfl

theorem readPieces_unit {n : Nat} {digits : List Char} (written : WritesUnit n digits) (s : List Char) :
    readPieces ('\\' :: 'u' :: digits ++ s) =
      (readPieces s).map fun (pieces, rest) => (.unit n :: pieces, rest) := by
  obtain ⟨a, b, c, d, rfl, first, second, third, fourth⟩ := written
  have value : unit? a b c d = some n := by
    rw [unit?, digitValue?_of_isHexDigit first, digitValue?_of_isHexDigit second, digitValue?_of_isHexDigit third,
      digitValue?_of_isHexDigit fourth]
    simp only [Option.bind_eq_bind, Option.bind_some, Option.some.injEq]
    omega
  simp only [List.cons_append, List.nil_append]
  rw [readPieces, value]
  cases readPieces s <;> rfl

theorem readPieces_plain {c : Char} (printable : 0x20 ≤ c.toNat) (quote : c ≠ '"') (backslash : c ≠ '\\')
    (s : List Char) :
    readPieces (c :: s) = (readPieces s).map fun (pieces, rest) => (.char c :: pieces, rest) := by
  rw [readPieces.eq_4 c s quote (fun _ _ _ _ _ same _ => backslash same) (fun _ _ same _ => backslash same)]
  simp only [Nat.not_lt.mpr printable, backslash, decide_false, Bool.or_self, Bool.false_eq_true, if_false]

theorem WritesPiece.read {piece : Piece} {part : List Char} (written : WritesPiece piece part) (s : List Char) :
    readPieces (part ++ s) = (readPieces s).map fun (pieces, rest) => (piece :: pieces, rest) := by
  cases written with
  | plain printable quote backslash => exact readPieces_plain printable quote backslash s
  | short named => exact readPieces_short named s
  | unit written => exact readPieces_unit written s

theorem readPieces_flatten {pieces : List Piece} {parts : List (List Char)}
    (each : List.Forall₂ WritesPiece pieces parts) (rest : List Char) :
    readPieces (parts.flatten ++ '"' :: rest) = some (pieces, rest) := by
  induction each with
  | nil => rw [List.flatten_nil, List.nil_append, readPieces]
  | cons first _ ih => rw [List.flatten_cons, List.append_assoc, first.read, ih, Option.map_some]

/-! ### What the pieces stand for -/

theorem decode_unit {n : Nat} (scalar : n < 0xD800 ∨ 0xDFFF < n) (pieces : List Piece) :
    decode (.unit n :: pieces) = (decode pieces).map (Char.ofNat n :: ·) := by
  have noHigh : isHighSurrogate n = false := by
    simp only [isHighSurrogate, Bool.and_eq_false_iff, decide_eq_false_iff_not]
    omega
  have noLow : isLowSurrogate n = false := by
    simp only [isLowSurrogate, Bool.and_eq_false_iff, decide_eq_false_iff_not]
    omega
  cases pieces with
  | nil => simp only [decode, noHigh, noLow, Bool.false_eq_true, if_false]
  | cons piece pieces => cases piece <;> simp only [decode, noHigh, noLow, Bool.false_eq_true, if_false]

theorem decode_pair {m : Nat} (bound : m < 0x100000) (pieces : List Piece) :
    decode (.unit (0xD800 + m / 0x400) :: .unit (0xDC00 + m % 0x400) :: pieces) =
      (decode pieces).map (Char.ofNat (0x10000 + m) :: ·) := by
  have high : isHighSurrogate (0xD800 + m / 0x400) = true := by
    simp only [isHighSurrogate, Bool.and_eq_true, decide_eq_true_eq]
    omega
  have low : isLowSurrogate (0xDC00 + m % 0x400) = true := by
    simp only [isLowSurrogate, Bool.and_eq_true, decide_eq_true_eq]
    omega
  have whole : 0x10000 + (0xD800 + m / 0x400 - 0xD800) * 0x400 + (0xDC00 + m % 0x400 - 0xDC00) = 0x10000 + m := by
    omega
  simp only [decode, high, low, if_true, whole]

theorem decode_of_encodes {pieces : List Piece} {cs : List Char} (encodes : Encodes pieces cs) :
    decode pieces = some cs := by
  induction encodes with
  | nil => rfl
  | char c _ ih => rw [decode, ih, Option.map_some]
  | unit c _ ih =>
    have scalar : c.toNat < 0xD800 ∨ 0xDFFF < c.toNat ∧ c.toNat < 0x110000 := c.valid
    rw [decode_unit (scalar.imp_right And.left), ih, Char.ofNat_toNat, Option.map_some]
  | pair c beyond _ ih =>
    have scalar : c.toNat < 0xD800 ∨ 0xDFFF < c.toNat ∧ c.toNat < 0x110000 := c.valid
    rw [decode_pair (by omega), ih, Nat.add_sub_cancel' beyond, Char.ofNat_toNat, Option.map_some]

theorem toNat_ofNat {n : Nat} (scalar : n.isValidChar) : (Char.ofNat n).toNat = n := by
  rw [Char.ofNat, dif_pos scalar]
  rfl

theorem encodes_of_decode {pieces : List Piece} {cs : List Char} (bounded : ∀ n, .unit n ∈ pieces → n < 0x10000)
    (read : decode pieces = some cs) : Encodes pieces cs := by
  fun_induction decode pieces generalizing cs with
  | case1 =>
    cases read
    exact .nil
  | case2 c pieces ih =>
    obtain ⟨cs, more, rfl⟩ := Option.map_eq_some_iff.mp read
    exact .char c (ih (fun n member => bounded n (List.mem_cons_of_mem _ member)) more)
  | case3 high isHigh low pieces isLow ih =>
    obtain ⟨cs, more, rfl⟩ := Option.map_eq_some_iff.mp read
    have rest := ih (fun n member => bounded n (List.mem_cons_of_mem _ (List.mem_cons_of_mem _ member))) more
    simp only [isHighSurrogate, isLowSurrogate, Bool.and_eq_true, decide_eq_true_eq] at isHigh isLow
    have number : (Char.ofNat (0x10000 + (high - 0xD800) * 0x400 + (low - 0xDC00))).toNat =
        0x10000 + (high - 0xD800) * 0x400 + (low - 0xDC00) := toNat_ofNat (.inr ⟨by omega, by omega⟩)
    have pair := Encodes.pair (Char.ofNat (0x10000 + (high - 0xD800) * 0x400 + (low - 0xDC00))) (by omega) rest
    have first : 0xD800 + (0x10000 + (high - 0xD800) * 0x400 + (low - 0xDC00) - 0x10000) / 0x400 = high := by omega
    have second : 0xDC00 + (0x10000 + (high - 0xD800) * 0x400 + (low - 0xDC00) - 0x10000) % 0x400 = low := by omega
    rwa [number, first, second] at pair
  | case4 | case5 | case6 => cases read
  | case7 n pieces notHigh notLow ih =>
    obtain ⟨cs, more, rfl⟩ := Option.map_eq_some_iff.mp read
    have rest := ih (fun n member => bounded n (List.mem_cons_of_mem _ member)) more
    have bound := bounded n List.mem_cons_self
    simp only [isHighSurrogate, isLowSurrogate, Bool.and_eq_true, decide_eq_true_eq] at notHigh notLow
    have number : (Char.ofNat n).toNat = n := toNat_ofNat (by unfold Nat.isValidChar; omega)
    have unit := Encodes.unit (Char.ofNat n) rest
    rwa [number] at unit

theorem lt_of_writesPieces {pieces : List Piece} {parts : List (List Char)}
    (each : List.Forall₂ WritesPiece pieces parts) : ∀ n, .unit n ∈ pieces → n < 0x10000 := by
  intro n member
  induction each with
  | nil => cases member
  | cons first _ ih =>
    obtain rfl | member := List.mem_cons.mp member
    · cases first with
      | unit written => exact written.lt
    · exact ih member

theorem ofPieces_of_standsFor {pieces : List Piece} {content : Option String} (bounded : ∀ n, .unit n ∈ pieces → n < 0x10000)
    (stands : StandsFor pieces content) : (decode pieces).map String.ofList = content := by
  cases stands with
  | text encodes => rw [decode_of_encodes encodes, Option.map_some, String.ofList_toList]
  | nothing unpaired =>
    rw [Option.map_eq_none_iff, Option.eq_none_iff_forall_ne_some]
    intro cs read
    exact unpaired cs (encodes_of_decode bounded read)

/-- However a content is written, what is read up to the closing quote stands for it. -/
theorem readPieces_of_writesContent {content : Option String} {cs : List Char} (written : WritesContent content cs) :
    ∃ pieces, (decode pieces).map String.ofList = content ∧
      ∀ rest, readPieces (cs ++ '"' :: rest) = some (pieces, rest) := by
  obtain ⟨pieces, parts, each, stands, rfl⟩ := written
  exact ⟨pieces, ofPieces_of_standsFor (lt_of_writesPieces each) stands, readPieces_flatten each⟩

end BpmnWorkflow.Json
