/-!
# Doubles

A double is a sign with a rank, an infinity, or the one number that is not a number.  The rank
numbers the magnitudes from zero upwards, so it grows with the value, and it is the magnitude's
interchange bits.  Every finite magnitude is a whole number of units, where the unit is the least
positive double, `2 ^ (-1074)`; comparisons and rounding are therefore done on `Nat` and `Int`.
-/

namespace FidelityGate

/-- The number of finite magnitudes. -/
abbrev Binary64.rankBound : Nat := 2047 * Nat.pow 2 52

/-- One unit is one part in `Binary64.unity` of the number one. -/
abbrev Binary64.unity : Nat := Nat.pow 2 1074

inductive Binary64 where
  | nan
  | infinite (negative : Bool)
  | finite (negative : Bool) (rank : Nat) (rank_lt : rank < Binary64.rankBound)
  deriving DecidableEq

/-- A place on the number line with both its ends, finite places counted in units. -/
inductive Position where
  | bottom
  | units (count : Int)
  | top
  deriving DecidableEq

namespace Position

def le : Position → Position → Bool
  | .bottom, _ => true
  | _, .top => true
  | .units a, .units b => a ≤ b
  | _, _ => false

def lt (a b : Position) : Bool :=
  !le b a

end Position

namespace Binary64

/-- The magnitude of a rank in units: the first `2 ^ 52` ranks count one by one, and the step
doubles after each further `2 ^ 52` ranks but the first. -/
def unitsOfRank (rank : Nat) : Nat :=
  if rank < Nat.pow 2 52 then rank
  else (Nat.pow 2 52 + rank % Nat.pow 2 52) * Nat.pow 2 (rank / Nat.pow 2 52 - 1)

def zero : Binary64 :=
  .finite false 0 (by decide)

def isFinite : Binary64 → Bool
  | .finite .. => true
  | _ => false

/-- The signed magnitude in units; zero for the doubles that are not finite. -/
def toUnits : Binary64 → Int
  | .finite negative rank _ => if negative then -unitsOfRank rank else unitsOfRank rank
  | _ => 0

/-- The place of a double on the number line.  Both zeros have one place, `nan` has none. -/
def position? : Binary64 → Option Position
  | .nan => none
  | .infinite negative => some (if negative then .bottom else .top)
  | x => some (.units x.toUnits)

/-- A finite double without a fractional part. -/
def isIntegral (x : Binary64) : Bool :=
  x.isFinite && x.toUnits % unity = 0

/-- The integer nearest to zero of the two that enclose a finite double. -/
def truncate (x : Binary64) : Int :=
  x.toUnits.tdiv unity

end Binary64

end FidelityGate
