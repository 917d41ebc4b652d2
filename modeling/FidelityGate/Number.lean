import FidelityGate.Binary64.Shortest

/-!
# Numbers as callers give them

A ratio or a count may be given as a truth value, an integer of any size or a double, and is kept as
it was given.  Numbers of different kinds are compared by their exact values: a truth value counts
as one or zero, and no number has an order against `nan`.
-/

namespace FidelityGate

inductive Number where
  | bool (b : Bool)
  | int (n : Int)
  | double (x : Binary64)
  deriving DecidableEq

namespace Number

def zero : Number :=
  .double .zero

def position? : Number → Option Position
  | .bool b => some (.units (if b then Binary64.unity else 0))
  | .int n => some (.units (n * Binary64.unity))
  | .double x => x.position?

/-- `a ≤ b` by value; false as soon as one of them is `nan`. -/
def le (a b : Number) : Bool :=
  match a.position?, b.position? with
  | some p, some q => p.le q
  | _, _ => false

/-- `a < b` by value; false as soon as one of them is `nan`. -/
def lt (a b : Number) : Bool :=
  match a.position?, b.position? with
  | some p, some q => p.lt q
  | _, _ => false

/-- Equality by value: both zeros are equal, and `nan` differs from itself. -/
def eqv (a b : Number) : Bool :=
  match a.position?, b.position? with
  | some p, some q => p = q
  | _, _ => false

def isPositive (a : Number) : Bool :=
  lt (.int 0) a

/-- Not zero; `nan` is no zero. -/
def isTrue (a : Number) : Bool :=
  !eqv a (.int 0)

/-- The nearest double, and nothing for an integer beyond the range of doubles. -/
def toBinary64? : Number → Option Binary64
  | .bool b => some (.ofInt (if b then 1 else 0))
  | .int n =>
    let x := Binary64.ofInt n
    if x.isFinite then some x else none
  | .double x => some x

def toFixed? (places : Nat) (a : Number) : Option String :=
  a.toBinary64?.map (·.toFixed places)

def text : Number → String
  | .bool true => "True"
  | .bool false => "False"
  | .int n => Text.ofInt n
  | .double x => x.toShortest

end Number

end FidelityGate
