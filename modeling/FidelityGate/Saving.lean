import FidelityGate.Fault

/-!
# Savings

The part of a text's length that compression saved: zero if there was nothing to save, negative if
the text grew, and the exact quotient rounded once to a double otherwise.
-/

namespace FidelityGate

/-- The saving from a length to another one, which may be too large for a double. -/
def saving (before after : Int) : Except Fault Binary64 :=
  if before ≤ 0 then .ok .zero
  else
    let quotient := Binary64.ofRatio (before - after) before.toNat
    if quotient.isFinite then .ok quotient else .error .quotientOverflow

end FidelityGate
