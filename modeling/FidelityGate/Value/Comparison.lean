import FidelityGate.Value

/-!
# Comparing values

Values of different kinds are equal only if both are numbers of the same value.  Numbers have an
order, texts have that of their characters, and lists that of the first items that differ; all other
values have none.
-/

namespace FidelityGate.Value

def eqvNumber (n : Number) (v : Value) : Bool :=
  match v.number? with
  | some m => n.eqv m
  | none => false

mutual

/-- Equality by content.  Objects are equal if they have equal values under the same keys, in
whatever order.  Entries, streams and labels are things of their own and equal no others. -/
def eqv : Value → Value → Bool
  | .null, .null => true
  | .bool a, b => eqvNumber (.bool a) b
  | .int a, b => eqvNumber (.int a) b
  | .double a, b => eqvNumber (.double a) b
  | .text a, .text b => a = b
  | .list a, .list b => eqvItems a b
  | .object a, .object b => a.length = b.length && eqvFields a b
  | _, _ => false

def eqvItems : List Value → List Value → Bool
  | [], [] => true
  | a :: rest, b :: others => eqv a b && eqvItems rest others
  | _, _ => false

def eqvFields : List (String × Value) → List (String × Value) → Bool
  | [], _ => true
  | (key, v) :: rest, others =>
    match lookup? key others with
    | some found => eqv v found && eqvFields rest others
    | none => false

end

mutual

/-- Whether a value is at least as large as another one.  Where there is no order, the kinds of the
two values that cannot be compared. -/
def atLeast : Value → Value → Except (String × String) Bool
  | .text a, .text b => .ok (b ≤ a)
  | .list a, .list b => atLeastItems a b
  | a, b =>
    match a.number?, b.number? with
    | some n, some m => .ok (m.le n)
    | _, _ => .error (a.kindName, b.kindName)

def atLeastItems : List Value → List Value → Except (String × String) Bool
  | [], others => .ok others.isEmpty
  | _ :: _, [] => .ok true
  | a :: rest, b :: others => if eqv a b then atLeastItems rest others else atLeast a b

end

theorem atLeast_toValue (n m : Number) : n.toValue.atLeast m.toValue = .ok (m.le n) := by
  cases n <;> cases m <;> simp [Number.toValue, atLeast, number?]

end FidelityGate.Value
