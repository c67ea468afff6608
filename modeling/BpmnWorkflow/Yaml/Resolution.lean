import BpmnWorkflow.Decimal
import BpmnWorkflow.Text.Digit

/-!
# What a plain scalar is taken for

A scalar without quotes may be read back as something other than a text: as nothing, as a truth
value or as a number. `isAmbiguous` tells the texts for which that is so.
-/

namespace BpmnWorkflow.Yaml

def reservedWords : List String :=
  ["", "~", "null", "Null", "NULL", "true", "True", "TRUE", "false", "False", "FALSE"]

def infinities : List String := [".inf", ".Inf", ".INF"]

def notNumbers : List String := [".nan", ".NaN", ".NAN"]

/-! ### Integers with a base -/

def digits? (base : Nat) (s : List Char) : Option Nat :=
  if s.isEmpty then none
  else s.foldlM (fun n c => (Text.digitValue? base c).map (base * n + ·)) 0

def basedNumber? : List Char → Option Nat
  | '0' :: 'x' :: s => digits? 16 s
  | '0' :: 'o' :: s => digits? 8 s
  | '0' :: 'b' :: s => digits? 2 s
  | _ => none

/-- Numbers with a base fit in 128 bits, negative ones in two's complement. -/
def isBasedInteger : List Char → Bool
  | '-' :: s => (basedNumber? s).any (· ≤ 1 <<< 127)
  | '+' :: s => (basedNumber? s).any (· < 1 <<< 128)
  | s => (basedNumber? s).any (· < 1 <<< 128)

/-! ### Decimal numbers -/

/-- Digits after a leading zero, which not everyone takes for a number. -/
def isZeroLed (s : List Char) : Bool :=
  match (Decimal.readSign s).2 with
  | '0' :: rest => !rest.isEmpty && rest.all Char.isDigit
  | _ => false

def isFiniteDecimal (s : List Char) : Bool :=
  (Decimal.ofChars? (Decimal.readSign s).2).any fun d => !d.overflows

def isAmbiguous (s : List Char) : Bool :=
  let text := String.ofList s
  reservedWords.contains text || notNumbers.contains text ||
    infinities.contains (String.ofList (Decimal.readSign s).2) ||
    isBasedInteger s || isZeroLed s || isFiniteDecimal s

end BpmnWorkflow.Yaml
