import FidelityGate.Load.Record
import FidelityGate.Requested

/-!
# Policies

What a caller can set once for many calls: the ratio to require, how many attempts a compressor
gets, and whether running out of attempts is a fault.
-/

namespace FidelityGate

structure Policy where
  ratio : Binary64 := .zero
  attempts : Int := 3
  raises : Bool := false
  deriving DecidableEq

namespace Policy

open Load

def finiteNumber (v : Value) : Checked Binary64 :=
  (number .value v).bind fun x ↦ if x.isFinite then .ok x else .fail .notFinite

def positiveInteger (v : Value) : Checked Int :=
  (integer v).bind fun n ↦ if 1 ≤ n then .ok n else .fail (.below 1)

def typeName : String := "GateConfig"

def load : Value → Checked Policy :=
  record typeName fun fields ↦
    Policy.mk <$> field finiteNumber .zero fields "required_saving_ratio"
      <*> field positiveInteger 3 fields "max_attempts"
      <*> field (truth .value) false fields "raise_on_exhaustion"

/-- The policy that a value describes.  Where there is no value, the default policy applies. -/
def ofValue : Value → Except Fault Policy
  | .null => .ok {}
  | v => match load v with
    | .ok policy => .ok policy
    | .bad issues => .error (.invalidPolicy issues)

def required (policy : Policy) : Number :=
  (Number.double policy.ratio).orDefault

def toValue (policy : Policy) : Value :=
  .object [
    ("required_saving_ratio", .double policy.ratio),
    ("max_attempts", .int policy.attempts),
    ("raise_on_exhaustion", .bool policy.raises)]

/-- Equality of all fields, where ratios are compared by value. -/
def eqv (a b : Policy) : Bool :=
  (Number.double a.ratio).eqv (.double b.ratio) && a.attempts = b.attempts &&
    a.raises = b.raises

end Policy

end FidelityGate
