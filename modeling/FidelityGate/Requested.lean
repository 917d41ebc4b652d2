import FidelityGate.Fault
import FidelityGate.Value

/-!
# Requested numbers

Ratios and attempt counts are optional, and nothing keeps a caller from handing over something
that is no number.  A requested ratio counts only if it is positive; otherwise the default
applies.
-/

namespace FidelityGate

inductive Requested where
  | absent
  | number (n : Number)
  | other (kind : String)
  deriving DecidableEq

def Requested.ofValue (v : Value) : Requested :=
  match v.number? with
  | some n => .number n
  | none => if v.isNull then .absent else .other v.kindName

/-- The ratio that is required where none is requested: 0.35. -/
def defaultRatio : Binary64 :=
  .ofDecimal false 35 (-2)

/-- The ratio to enforce: a positive request as given, and the default in place of any other
number. -/
def Number.orDefault (n : Number) : Number :=
  if n.isPositive then n else .double defaultRatio

def Requested.ratio : Requested → Except Fault Number
  | .absent => .ok (.double defaultRatio)
  | .number n => .ok n.orDefault
  | .other kind => .error (.unordered .greater kind "int")

end FidelityGate
