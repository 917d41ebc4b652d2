import FidelityGate.Binary64.Rounding

/-!
# Fixed decimal places

The text of a double with a fixed number of decimal places.  The exact value is rounded to the last
place, a half to the even neighbour, and the sign is kept also where the digits are all zero.
-/

namespace FidelityGate

namespace Text

/-- The decimal digits of a number. -/
def ofNat (n : Nat) : List Char :=
  Nat.toDigits 10 n

def ofInt (n : Int) : String :=
  String.ofList (if n < 0 then '-' :: ofNat n.natAbs else ofNat n.natAbs)

def padZeros (width : Nat) (cs : List Char) : List Char :=
  List.replicate (width - cs.length) '0' ++ cs

end Text

namespace Binary64

def signed (negative : Bool) (magnitude : List Char) : String :=
  String.ofList (if negative then '-' :: magnitude else magnitude)

/-- The digits of `units` rounded to `places` decimal places. -/
def fixedDigits (places units : Nat) : List Char :=
  let scaled := roundHalfEven (units * Nat.pow 10 places) unity
  Text.ofNat (scaled / Nat.pow 10 places) ++
    '.' :: Text.padZeros places (Text.ofNat (scaled % Nat.pow 10 places))

def toFixed (places : Nat) : Binary64 → String
  | .nan => "nan"
  | .infinite negative => signed negative ['i', 'n', 'f']
  | .finite negative rank _ => signed negative (fixedDigits places (unitsOfRank rank))

end Binary64

end FidelityGate
