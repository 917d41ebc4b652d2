/-!
# Classes of characters

A class of characters is given by ranges of code points.
-/

namespace FidelityGate.Text

/-- A character is in a class if one of its ranges, ends included, holds the code point. -/
def isIn (ranges : List (Nat × Nat)) (c : Char) : Bool :=
  ranges.any fun range ↦ range.1 ≤ c.toNat && c.toNat ≤ range.2

end FidelityGate.Text
