import BpmnWorkflow.Decimal

/-!
# Numbers

A number is kept as a power of ten and the leading digits that fit in 64 bits; digits that do not
fit only count for the power. It overflows if digits and power, each rounded to a double, have a
product beyond the range of doubles.
-/

namespace BpmnWorkflow.Json

/-- Appends the digits that still fit in 64 bits, and gives those that do not. -/
def fillDigits (n : Nat) : List Char → Nat × List Char
  | [] => (n, [])
  | c :: rest =>
    let next := 10 * n + Decimal.digitValue c
    if next < 1 <<< 64 then fillDigits next rest else (n, c :: rest)

/-- The number with these digits before and after the point and this exponent. -/
def keptNumber (whole fraction : List Char) (scale : Int) : Decimal :=
  let (high, leftWhole) := fillDigits 0 whole
  let (significand, leftFraction) := fillDigits high fraction
  ⟨significand, scale + leftWhole.length - (fraction.length - leftFraction.length : Nat)⟩

def overflows (d : Decimal) : Bool :=
  match d.exponent with
  | .ofNat up =>
    if 309 ≤ up then d.significand != 0
    else Double.limit ≤ Double.round d.significand * Double.round (Nat.pow 10 up)
  | .negSucc _ => false

end BpmnWorkflow.Json
