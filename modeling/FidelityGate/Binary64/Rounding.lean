import FidelityGate.Binary64.Basic

/-!
# Rounding to the nearest double

A quotient of natural numbers, counted in units, is rounded once: its magnitude is scaled until
the quotient has 53 binary digits, or is below `2 ^ 53` units as it stands, and the scaled quotient
is rounded to the nearest integer, a half to the even neighbour.  The rank of the result is then
the sum of `2 ^ 52` for every doubling and of the rounded quotient, also where rounding carries
into the next power of two.  A rank beyond the finite ones is an infinity.
-/

namespace FidelityGate

/-- The nearest integer to `num / den`; of two equally near the even one. -/
def roundHalfEven (num den : Nat) : Nat :=
  let quotient := num / den
  let twice := 2 * (num % den)
  if twice < den then quotient
  else if den < twice then quotient + 1
  else if quotient % 2 = 0 then quotient
  else quotient + 1

namespace Binary64

/-- The rank nearest to `num / den` units, as if ranks went on for ever. -/
def rankOfQuotient (num den : Nat) : Nat :=
  let doublings := (num / den).log2 - 52
  doublings * Nat.pow 2 52 + roundHalfEven num (den * Nat.pow 2 doublings)

def ofRank (negative : Bool) (rank : Nat) : Binary64 :=
  if bound : rank < rankBound then .finite negative rank bound else .infinite negative

/-- The double nearest to `num / den` units with the given sign. -/
def nearest (negative : Bool) (num den : Nat) : Binary64 :=
  ofRank negative (rankOfQuotient num den)

/-- The double nearest to an integer; an infinity beyond the range. -/
def ofInt (n : Int) : Binary64 :=
  nearest (n < 0) (n.natAbs * unity) 1

/-- The double nearest to `a / b`; an infinity beyond the range. -/
def ofRatio (a : Int) (b : Nat) : Binary64 :=
  nearest (a < 0) (a.natAbs * unity) b

/-- The double nearest to `digits * 10 ^ exponent`.  A number of at least `10 ^ 310` is an infinity
and one below `10 ^ (-330)` is zero, so no power of ten beyond the size of the digits is formed. -/
def ofDecimal (negative : Bool) (digits : Nat) (exponent : Int) : Binary64 :=
  let size : Int := digits.log2
  if digits = 0 then .ofRank negative 0
  else if 310 ≤ exponent then .infinite negative
  else if exponent + size / 3 + 1 < -330 then .ofRank negative 0
  else if 0 ≤ exponent then nearest negative (digits * Nat.pow 10 exponent.toNat * unity) 1
  else nearest negative (digits * unity) (Nat.pow 10 (-exponent).toNat)

/-- One hundred times a double, rounded to the nearest double. -/
def timesHundred : Binary64 → Binary64
  | .finite negative rank _ => nearest negative (100 * unitsOfRank rank) 1
  | x => x

end Binary64

end FidelityGate
