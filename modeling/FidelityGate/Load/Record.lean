import FidelityGate.Load.Scalar

/-!
# Loading records

A record is loaded from an object.  Unknown keys are ignored, a missing key gives the default,
and of a repeated key the last value counts.
-/

namespace FidelityGate.Load

variable {α : Type}

/-- The items of a list or of a stream. -/
def list (load : Value → Checked α) : Value → Checked (List α)
  | .list items => Checked.each load 0 items
  | .stream items => Checked.each load 0 items
  | _ => .fail .notList

def record (name : String) (load : List (String × Value) → Checked α) : Value → Checked α
  | .object fields => load fields
  | _ => .fail (.notRecord name)

def field (load : Value → Checked α) (default : α) (fields : List (String × Value))
    (key : String) : Checked α :=
  match Value.lookup? key fields with
  | none => .ok default
  | some v => (load v).under (.key key)

def textField : List (String × Value) → String → Checked String :=
  field text ""

def integerField (fields : List (String × Value)) (key : String) : Checked Number :=
  Number.int <$> field integer 0 fields key

def numberField (form : Form) (fields : List (String × Value)) (key : String) : Checked Number :=
  Number.double <$> field (number form) .zero fields key

def listField (load : Value → Checked α) : List (String × Value) → String → Checked (List α) :=
  field (list load) []

end FidelityGate.Load
