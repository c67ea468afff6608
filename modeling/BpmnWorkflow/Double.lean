/-!
# Double precision

Which whole numbers are doubles, and where their range ends. A double has 53 binary digits.
-/

namespace BpmnWorkflow.Double

/-- The least number that rounds to infinity: half a unit above the greatest double, whose first
digit is worth `2 ^ 1023`. -/
def limit : Nat := (1 <<< 1024) - (1 <<< 970)

/-- The nearest number of 53 binary digits, the one with an even last digit on a tie. -/
def round (n : Nat) : Nat :=
  let unit := 1 <<< (n.log2 - 52)
  let below := n / unit
  let rest := 2 * (n % unit)
  let nearest := if unit < rest || (unit == rest && below % 2 == 1) then below + 1 else below
  nearest * unit

end BpmnWorkflow.Double
