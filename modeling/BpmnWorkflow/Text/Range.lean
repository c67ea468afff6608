/-!
# Ranges of characters

Kinds of characters as rows of ranges, each with its first and its last number.
-/

namespace BpmnWorkflow.Text

def within (ranges : List (Nat × Nat)) (c : Char) : Bool :=
  ranges.any fun (low, high) => low ≤ c.toNat && c.toNat ≤ high

end BpmnWorkflow.Text
