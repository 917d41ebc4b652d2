import FidelityGate.Identifiers
import FidelityGate.Requested
import FidelityGate.Saving

/-!
# Judging a candidate

A candidate may replace a pack when its rendering is shorter by the required ratio and none of the
pack's identifiers is missing from it.  All four checks are always made.  What the texts mean is not
looked at.
-/

namespace FidelityGate

inductive Role where
  | before
  | after
  deriving DecidableEq

def Role.name : Role → String
  | .before => "before"
  | .after => "after"

def Candidate.requireShape (role : Role) (candidate : Candidate) : Except Fault Shape :=
  match candidate.shape? with
  | some shape => .ok shape
  | none => .error (.invalidInput role.name (.ofKind candidate.kindName))

def Shape.identifiers (role : Role) (shape : Shape) : Except Fault Identifiers :=
  match Identifiers.ofShape shape with
  | .ok identifiers => .ok identifiers
  | .error fault => .error (.invalidInput role.name (.entry fault))

/-- Both shapes are asked for first, then the ratio, the two lengths, and the identifiers. -/
def judge (before after : Candidate) (request : Requested) : Except Fault Verdict := do
  let beforeShape ← before.requireShape .before
  let afterShape ← after.requireShape .after
  let required ← request.ratio
  let beforeLength ← beforeShape.textLength
  let afterLength ← afterShape.textLength
  let saved ← saving beforeLength afterLength
  let kept ← beforeShape.identifiers .before
  let found ← afterShape.identifiers .after
  return Verdict.conclude (.double saved) required
    (Identifiers.isLost kept.constraints found.constraints)
    (Identifiers.isLost kept.todos found.todos)
    (Identifiers.isLost kept.evidence found.evidence)
    beforeLength afterLength

end FidelityGate
