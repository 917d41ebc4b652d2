import FidelityGate.Binary64.Words
import FidelityGate.Load.Checked
import FidelityGate.Text.Integer
import FidelityGate.Value

/-!
# Loading scalars

The lenient rules by which a value becomes a text, an integer, a double or a truth value.  Numbers
may be given as texts, truth values count as one and zero, and a double may stand for an integer if
it has no fractional part and fits 64 bits.
-/

namespace FidelityGate.Load

open Text

def text : Value → Checked String
  | .text s => .ok s
  | _ => .fail .notText

def integerText (s : String) : Checked Int :=
  let cs := s.toList
  if isOversized cs then .fail .oversizedInteger
  else match readInteger? cs with
    | some n => .ok n
    | none => .fail .unreadableInteger

/-- Strictly between `-2 ^ 63` and `2 ^ 63`. -/
def isWithinWord (n : Int) : Bool :=
  n.natAbs < Nat.pow 2 63

def integer : Value → Checked Int
  | .int n => .ok n
  | .bool b => .ok (if b then 1 else 0)
  | .double x =>
    if !x.isFinite then .fail .notFinite
    else if !x.isIntegral then .fail .fractionalInteger
    else if isWithinWord x.truncate then .ok x.truncate
    else .fail .oversizedInteger
  | .text s => integerText s
  | _ => .fail .notInteger

def lowercase (cs : List Char) : List Char :=
  cs.map Char.toLower

/-- The double that characters denote as they stand. -/
def readNumber? (cs : List Char) : Option Binary64 :=
  let (sign, word) := Sign.take cs
  match String.ofList (lowercase word) with
  | "nan" => some .nan
  | "inf" => some (.infinite sign.isMinus)
  | "infinity" => some (.infinite sign.isMinus)
  | _ => do
    let numeral ← Numeral.scan? cs
    if numeral.isLoose then some numeral.toBinary64 else none

/-- A number with white space around it, or one with underscores inside it, but not both. -/
def numberText (s : String) : Checked Binary64 :=
  let cs := s.toList
  match readNumber? (trimBy isWhiteSpace cs) <|> readNumber? (ungrouped cs) with
  | some x => .ok x
  | none => .fail .unreadableNumber

/-- An integer becomes the nearest double, and beyond their range it is no number.  In a document it
is rounded by its words, and beyond the range it is an infinity. -/
def numberOfInt (form : Form) (n : Int) : Checked Binary64 :=
  match form with
  | .value => if (Binary64.ofInt n).isFinite then .ok (.ofInt n) else .fail .notNumber
  | .document => .ok (.ofWords n)

def number (form : Form) : Value → Checked Binary64
  | .double x => .ok x
  | .bool b => .ok (.ofInt (if b then 1 else 0))
  | .int n => numberOfInt form n
  | .text s => numberText s
  | _ => .fail .notNumber

def truthWords : List (String × Bool) :=
  [("0", false), ("off", false), ("f", false), ("false", false), ("n", false), ("no", false),
    ("1", true), ("on", true), ("t", true), ("true", true), ("y", true), ("yes", true)]

/-- One and zero are truth values; another integer is one that cannot be interpreted. -/
def truthOfInt (n : Int) : Checked Bool :=
  if n = 0 then .ok false
  else if n = 1 then .ok true
  else .fail .unreadableTruth

/-- The integers that are looked at when a truth value is expected: those of 64 bits, and in a
document those of at most 18 digits. -/
def isModest (form : Form) (n : Int) : Bool :=
  match form with
  | .value => n = -Nat.pow 2 63 || isWithinWord n
  | .document => n.natAbs < Nat.pow 10 18

def truth (form : Form) : Value → Checked Bool
  | .bool b => .ok b
  | .int n => if isModest form n then truthOfInt n else .fail .notTruth
  | .double x =>
    if x.isIntegral && isWithinWord x.truncate then truthOfInt x.truncate else .fail .notTruth
  | .text s =>
    match truthWords.lookup (String.ofList (lowercase s.toList)) with
    | some b => .ok b
    | none => .fail .unreadableTruth
  | _ => .fail .notTruth

/-- One of the texts of a fixed list. -/
def choice {α : Type} (choices : List (String × α)) : Value → Checked α
  | .text s =>
    match choices.lookup s with
    | some meant => .ok meant
    | none => .fail (.notChoice (choices.map (·.1)))
  | _ => .fail (.notChoice (choices.map (·.1)))

end FidelityGate.Load
