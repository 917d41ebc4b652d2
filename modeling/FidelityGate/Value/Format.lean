import FidelityGate.Fault

/-!
# Values as decimals

A number is written with a fixed number of decimal places, or in percent, after it was rounded to
the nearest double.  Other values have no such text.
-/

namespace FidelityGate.Value

/-- The decimal text of a number; the mark stands for the format where a text is refused. -/
def format (mark : Char) (write : Binary64 → String) (v : Value) : Except Fault String :=
  match v.number?, v with
  | some n, _ => match n.toBinary64? with
    | some x => .ok (write x)
    | none => .error .formatOverflow
  | none, .text _ => .error (.unknownFormat mark v.kindName)
  | none, _ => .error (.noFormat v.kindName)

def toFixed (places : Nat) : Value → Except Fault String :=
  format 'f' (·.toFixed places)

/-- A ratio in percent with one decimal place: one hundred times its nearest double. -/
def toPercent : Value → Except Fault String :=
  format '%' fun x ↦ x.timesHundred.toFixed 1 ++ "%"

end FidelityGate.Value
