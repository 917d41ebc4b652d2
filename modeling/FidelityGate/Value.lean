import FidelityGate.Number

/-!
# Untyped values

What a caller hands over before it has been loaded: the values of a document, and three further
kinds that only a running program can hold.  An `entry` is an object with attributes, a `stream` is
a sequence that can be read once, and a `label` is an object that carries a text and can be trimmed
as this text can, but is none.
-/

namespace FidelityGate

inductive Value where
  | null
  | bool (b : Bool)
  | int (n : Int)
  | double (x : Binary64)
  | text (s : String)
  | list (items : List Value)
  | object (fields : List (String × Value))
  | entry (attributes : List (String × Value))
  | stream (items : List Value)
  | label (s : String)

def Number.toValue : Number → Value
  | .bool b => .bool b
  | .int n => .int n
  | .double x => .double x

namespace Value

/-- The name of a value's kind in messages. -/
def kindName : Value → String
  | .null => "NoneType"
  | .bool _ => "bool"
  | .int _ => "int"
  | .double _ => "float"
  | .text _ => "str"
  | .list _ => "list"
  | .object _ => "dict"
  | .entry _ => "Entry"
  | .stream _ => "list_iterator"
  | .label _ => "Label"

def isNull : Value → Bool
  | .null => true
  | _ => false

/-- Whether a value stands for yes: nothing, zeros and what is empty stand for no. -/
def isTrue : Value → Bool
  | .null => false
  | .bool b => b
  | .int n => n ≠ 0
  | .double x => (Number.double x).isTrue
  | .text s => s ≠ ""
  | .list items => !items.isEmpty
  | .object fields => !fields.isEmpty
  | .entry _ => true
  | .stream _ => true
  | .label _ => true

def number? : Value → Option Number
  | .bool b => some (.bool b)
  | .int n => some (.int n)
  | .double x => some (.double x)
  | _ => none

@[simp] theorem number?_toValue (n : Number) : n.toValue.number? = some n := by
  cases n <;> rfl

/-- The value of the last field with the key; a later field replaces an earlier one. -/
def lookup? (key : String) (fields : List (String × Value)) : Option Value :=
  (fields.reverse.find? fun field ↦ field.1 = key).map (·.2)

def attribute? (name : String) : Value → Option Value
  | .entry attributes => lookup? name attributes
  | _ => none

def length? : Value → Option Nat
  | .text s => some s.length
  | .list items => some items.length
  | .object fields => some fields.length
  | _ => none

/-- The values that reading a value yields: the characters of a text, the keys of an object. -/
def items? : Value → Option (List Value)
  | .list items => some items
  | .stream items => some items
  | .text s => some (s.toList.map fun c ↦ .text (String.singleton c))
  | .object fields => some (fields.map fun field ↦ .text field.1)
  | _ => none

/-- The value after it was read once. -/
def spent : Value → Value
  | .stream _ => .stream []
  | value => value

end Value

end FidelityGate
