import FidelityGate.Text.Blank
import FidelityGate.Text.Numeral

/-!
# Integers as texts

An integer is read from a text in strict notation: an optional minus sign and digits without a
needless zero in front.  A text that is not strict is tidied up first.  Tidying looks only at single
characters, so it lets some odd texts pass: a minus sign may also stand behind leading zeros, and
underscores among these may be doubled.
-/

namespace FidelityGate.Text

/-- The most characters that an integer has as a text, its sign included. -/
def integerLimit : Nat := 4300

/-- Characters that begin as an integer which is too long, whatever follows it. -/
def isOversized (cs : List Char) : Bool :=
  let (sign, body) := Sign.take cs
  let digits := body.takeWhile isDigit
  let signLength := if sign.isMinus then 1 else 0
  sign ≠ .plus && digits.head? ≠ some '0' && integerLimit < signLength + digits.length

/-- The integer that characters denote in strict notation. -/
def strictInteger? (cs : List Char) : Option Int := do
  let numeral ← Numeral.scan? cs
  if numeral.isStrict && numeral.isWhole && cs.length ≤ integerLimit then some numeral.toInt
  else none

/-- Characters from their first digit on without the zeros and underscores in front.  One character
is left of a text of nothing else, and one stays in front of a point; what comes behind the zeros
may have a sign of its own. -/
def withoutLeadingZeros? (cs : List Char) : Option (List Char) :=
  match cs with
  | '0' :: rest =>
    let zeros := '0' :: rest.takeWhile fun c ↦ c = '0' || c = '_'
    let last := zeros.getLast?.toList
    match rest.dropWhile fun c ↦ c = '0' || c = '_' with
    | [] => some last
    | c :: more =>
      if c = '.' then some (last ++ c :: more)
      else if isDigit c || c = '-' then some (c :: more)
      else none
  | c :: _ => if isDigit c then some cs else none
  | [] => none

/-- Characters without a final point that has only zeros behind it. -/
def withoutNullFraction (cs : List Char) : List Char :=
  match cs.dropWhile (· ≠ '.') with
  | _ :: zeros =>
    if !zeros.isEmpty && zeros.all (· = '0') then cs.takeWhile (· ≠ '.') else cs
  | [] => cs

/-- An underscore at an end, or next to another one. -/
def hasStrayUnderscore (cs : List Char) : Bool :=
  cs.head? = some '_' || cs.getLast? = some '_' ||
    (cs.zip cs.tail).any fun pair ↦ pair.1 = '_' && pair.2 = '_'

/-- Characters without underscores if each of these stands between two other characters. -/
def ungrouped (cs : List Char) : List Char :=
  if hasStrayUnderscore cs then cs else cs.filter (· ≠ '_')

def tidyMagnitude? (cs : List Char) : Option (List Char) :=
  (withoutLeadingZeros? cs).map fun rest ↦ ungrouped (withoutNullFraction rest)

/-- What is left of characters when everything that does not count for an integer is taken away:
white space and zeros around it, a plus sign, and the underscores between digits. -/
def tidyInteger? (cs : List Char) : Option (List Char) :=
  match trimBy isWhiteSpace cs with
  | '+' :: rest => tidyMagnitude? rest
  | '-' :: rest => (tidyMagnitude? rest).map ('-' :: ·)
  | rest => tidyMagnitude? rest

/-- The integer that characters denote, as they stand or when they are tidied up. -/
def readInteger? (cs : List Char) : Option Int :=
  strictInteger? cs <|> (tidyInteger? cs).bind strictInteger?

end FidelityGate.Text
