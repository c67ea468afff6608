import BpmnWorkflow.Double

/-!
# Decimal numbers

Numbers written in decimal, and whether one lies beyond the range of double precision.
-/

namespace BpmnWorkflow

structure Decimal where
  significand : Nat
  exponent : Int
  deriving DecidableEq, Repr, Inhabited

namespace Decimal

/-- Whether the number is at least `Double.limit`; no power beyond the limit is computed. -/
def overflows (d : Decimal) : Bool :=
  match d.exponent with
  | .ofNat up =>
    if d.significand = 0 then false
    else if 309 ≤ up then true
    else Double.limit ≤ d.significand * Nat.pow 10 up
  | .negSucc down =>
    if d.significand.log2 < down + 1 then false
    else Double.limit * Nat.pow 10 (down + 1) ≤ d.significand

/-! ### Digits -/

def digitValue (c : Char) : Nat := c.toNat - '0'.toNat

def ofDigits (digits : List Char) : Nat := digits.foldl (fun n c => 10 * n + digitValue c) 0

def ofParts (whole fraction : List Char) (exponent : Int) : Decimal :=
  ⟨ofDigits (whole ++ fraction), exponent - fraction.length⟩

/-- Whether a minus sign stands in front, and what follows the sign. -/
def readSign : List Char → Bool × List Char
  | '-' :: rest => (true, rest)
  | '+' :: rest => (false, rest)
  | s => (false, s)

def readExponent (s : List Char) : Option (Int × List Char) :=
  let signed := readSign s
  let digits := signed.2.takeWhile Char.isDigit
  if digits.isEmpty then none
  else
    let n : Int := ofDigits digits
    some (if signed.1 then -n else n, signed.2.dropWhile Char.isDigit)

theorem length_readSign (s : List Char) : (readSign s).2.length ≤ s.length := by
  unfold readSign
  split <;> simp

theorem length_readExponent {s rest : List Char} {n : Int} (h : readExponent s = some (n, rest)) :
    rest.length ≤ s.length := by
  unfold readExponent at h
  dsimp only at h
  split at h
  · cases h
  · simp only [Option.some.injEq, Prod.mk.injEq] at h
    obtain ⟨-, rfl⟩ := h
    exact Nat.le_trans (List.dropWhile_sublist _).length_le (length_readSign s)

/-- A number with digits before or after a point that may be missing, and maybe an exponent. -/
def ofChars? (s : List Char) : Option Decimal :=
  let whole := s.takeWhile Char.isDigit
  let rest := s.dropWhile Char.isDigit
  let pointed := rest.head? == some '.'
  let fraction := if pointed then rest.tail.takeWhile Char.isDigit else []
  let rest := if pointed then rest.tail.dropWhile Char.isDigit else rest
  if whole.isEmpty && fraction.isEmpty then none
  else
    match rest with
    | [] => some (ofParts whole fraction 0)
    | e :: rest =>
      if e == 'e' || e == 'E' then
        match readExponent rest with
        | some (exponent, []) => some (ofParts whole fraction exponent)
        | _ => none
      else none

end Decimal

end BpmnWorkflow
