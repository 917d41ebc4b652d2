import FidelityGate.Text.Quoted
import FidelityGate.Value

/-!
# Showing values

The text of a value in messages.  Texts stand in quotes, lists in square brackets and objects in
curly ones.
-/

namespace FidelityGate.Value

mutual

/-- A value as it is shown inside a message. -/
def shown : Value → String
  | .null => "None"
  | .bool b => (Number.bool b).text
  | .int n => (Number.int n).text
  | .double x => (Number.double x).text
  | .text s => Text.quoted s
  | .list items => "[" ++ ", ".intercalate (shownItems items) ++ "]"
  | .object fields => "\x7b" ++ ", ".intercalate (shownFields fields) ++ "\x7d"
  | .entry attributes => kindName (.entry attributes)
  | .stream items => kindName (.stream items)
  | .label s => kindName (.label s)

def shownItems : List Value → List String
  | [] => []
  | item :: rest => shown item :: shownItems rest

def shownFields : List (String × Value) → List String
  | [] => []
  | (key, v) :: rest => (Text.quoted key ++ ": " ++ shown v) :: shownFields rest

end

/-- A value as it is written on its own: a text without quotes, anything else as it is shown. -/
def written : Value → String
  | .text s => s
  | v => v.shown

end FidelityGate.Value
