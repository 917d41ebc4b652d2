import FidelityGate.Binary64.Fixed

/-!
# Shortest decimals

The shortest text that reads back as the same double.  For one digit, two digits and so on the
two decimals that enclose the value on that grid are tried, and the first grid with a decimal
that reads back wins; of two such decimals the nearer one is taken, of two equally near the even
one.  Exponents from -4 to 15 are written positionally, all others behind a letter `e` with at
least two digits.
-/

namespace FidelityGate.Binary64

/-- The number `digits * 10 ^ exponent`. -/
structure Decimal where
  digits : Nat
  exponent : Int
  deriving DecidableEq

/-- The exponent of the leading decimal digit of a positive number of units. -/
def leadingExponent (units : Nat) : Int :=
  let scaled := units * Nat.pow 10 400 / unity
  ((Text.ofNat scaled).length : Int) - 401

/-- A decimal that reads back as the rank, with `count` significant digits. -/
def decimal? (rank count : Nat) : Option Decimal :=
  let units := unitsOfRank rank
  let exponent := leadingExponent units + 1 - count
  let num := if exponent < 0 then units * Nat.pow 10 (-exponent).toNat else units
  let den := if exponent < 0 then unity else unity * Nat.pow 10 exponent.toNat
  let floor := num / den
  let readsBack (digits : Nat) : Bool :=
    ofDecimal false digits exponent = ofRank false rank
  let twice := 2 * (num % den)
  let floorIsNearer := twice < den || (twice = den && floor % 2 = 0)
  match readsBack floor, readsBack (floor + 1) with
  | true, true => some ⟨if floorIsNearer then floor else floor + 1, exponent⟩
  | true, false => some ⟨floor, exponent⟩
  | false, true => some ⟨floor + 1, exponent⟩
  | false, false => none

/-- The shortest decimal of a positive rank.  Seventeen digits always suffice. -/
def shortestDecimal (rank : Nat) : Decimal :=
  ((List.range 17).findSome? fun index ↦ decimal? rank (index + 1)).getD ⟨0, 0⟩

/-- The significant digits without trailing zeros, and the exponent of the first one. -/
def significant (decimal : Decimal) : List Char × Int :=
  let digits := Text.ofNat decimal.digits
  ((digits.reverse.dropWhile (· = '0')).reverse, decimal.exponent + digits.length - 1)

/-- The text of significant digits with a given leading exponent. -/
def writeSignificant (digits : List Char) (exponent : Int) : List Char :=
  if -4 ≤ exponent && exponent < 16 then
    if exponent < 0 then
      '0' :: '.' :: (List.replicate (-exponent - 1).toNat '0' ++ digits)
    else
      let wholeLength := exponent.toNat + 1
      let whole := digits.take wholeLength
      let fraction := digits.drop wholeLength
      whole ++ List.replicate (wholeLength - whole.length) '0' ++
        '.' :: (if fraction.isEmpty then ['0'] else fraction)
  else
    let mantissa := match digits with
      | first :: second :: rest => first :: '.' :: second :: rest
      | short => short
    let mark := if exponent < 0 then '-' else '+'
    mantissa ++ 'e' :: mark :: Text.padZeros 2 (Text.ofNat exponent.natAbs)

def toShortest : Binary64 → String
  | .nan => "nan"
  | .infinite negative => signed negative ['i', 'n', 'f']
  | .finite negative rank _ =>
    if rank = 0 then signed negative ['0', '.', '0']
    else
      let (digits, exponent) := significant (shortestDecimal rank)
      signed negative (writeSignificant digits exponent)

end FidelityGate.Binary64
