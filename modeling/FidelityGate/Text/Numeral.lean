import FidelityGate.Binary64.Rounding

/-!
# Decimal notation

A `Numeral` is a number as it is written: a sign, the digits before the point, the digits after
it and an exponent.  `Numeral.scan?` splits a text into these parts without judging them, so that
the two grammars in use, the strict one of documents and the loose one of texts that stand for
numbers, are predicates on the parts.
-/

namespace FidelityGate

inductive Sign where
  | none
  | plus
  | minus
  deriving DecidableEq

namespace Sign

def isMinus : Sign → Bool
  | .minus => true
  | _ => false

def take : List Char → Sign × List Char
  | '+' :: rest => (.plus, rest)
  | '-' :: rest => (.minus, rest)
  | rest => (.none, rest)

end Sign

namespace Text

def isDigit (c : Char) : Bool :=
  '0' ≤ c && c ≤ '9'

def digitValue (c : Char) : Nat :=
  c.toNat - '0'.toNat

/-- The number that a row of decimal digits denotes; nothing denotes zero. -/
def digitsValue (cs : List Char) : Nat :=
  cs.foldl (fun value c ↦ 10 * value + digitValue c) 0

end Text

open Text

structure Numeral where
  sign : Sign
  whole : List Char
  fraction : Option (List Char)
  exponent : Option (Sign × List Char)
  deriving DecidableEq

namespace Numeral

/-- The optional exponent that ends a numeral.  An exponent has at least one digit. -/
def scanExponent? (sign : Sign) (whole : List Char) (fraction : Option (List Char)) :
    List Char → Option Numeral
  | [] => some ⟨sign, whole, fraction, none⟩
  | mark :: rest =>
    let (exponentSign, digits) := Sign.take rest
    if (mark = 'e' || mark = 'E') && !digits.isEmpty && digits.all isDigit then
      some ⟨sign, whole, fraction, some (exponentSign, digits)⟩
    else
      none

def scan? (cs : List Char) : Option Numeral :=
  let (sign, body) := Sign.take cs
  let whole := body.takeWhile isDigit
  match body.dropWhile isDigit with
  | '.' :: rest =>
    scanExponent? sign whole (some (rest.takeWhile isDigit)) (rest.dropWhile isDigit)
  | rest => scanExponent? sign whole none rest

/-- Neither point nor exponent. -/
def isWhole (numeral : Numeral) : Bool :=
  numeral.fraction.isNone && numeral.exponent.isNone

/-- The grammar of numbers in documents: no plus sign, no needless leading zero, and a digit on
both sides of a point. -/
def isStrict (numeral : Numeral) : Bool :=
  numeral.sign ≠ .plus &&
    (numeral.whole = ['0'] || (!numeral.whole.isEmpty && numeral.whole.head? ≠ some '0')) &&
      numeral.fraction ≠ some []

/-- The grammar of texts that stand for numbers: a digit on at least one side of the point. -/
def isLoose (numeral : Numeral) : Bool :=
  !numeral.whole.isEmpty || !(numeral.fraction.getD []).isEmpty

/-- The integer denoted by the sign and the digits before the point. -/
def toInt (numeral : Numeral) : Int :=
  let magnitude : Int := digitsValue numeral.whole
  if numeral.sign.isMinus then -magnitude else magnitude

def toBinary64 (numeral : Numeral) : Binary64 :=
  let fraction := numeral.fraction.getD []
  let exponent : Int := match numeral.exponent with
    | none => 0
    | some (sign, digits) =>
      let magnitude : Int := digitsValue digits
      if sign.isMinus then -magnitude else magnitude
  Binary64.ofDecimal numeral.sign.isMinus (digitsValue (numeral.whole ++ fraction))
    (exponent - fraction.length)

end Numeral

end FidelityGate
