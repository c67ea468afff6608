/-!
# Digits

What digits of a base up to sixteen stand for, in capitals or not, and how a value is written.
-/

namespace BpmnWorkflow.Text

def digitValue? (base : Nat) (c : Char) : Option Nat :=
  let n := c.toNat
  let value :=
    if 0x30 ≤ n && n ≤ 0x39 then n - 0x30
    else if 0x41 ≤ n && n ≤ 0x46 then n - 0x37
    else if 0x61 ≤ n && n ≤ 0x66 then n - 0x57
    else base
  if value < base then some value else none

/-- The digit of a value below sixteen; the letter for ten settles whether letters are capitals. -/
def hexDigit (ten : Char) (n : Nat) : Char :=
  if n < 10 then Char.ofNat (0x30 + n) else Char.ofNat (ten.toNat + (n - 10))

end BpmnWorkflow.Text
