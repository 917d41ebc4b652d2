import FidelityGate.Value.Comparison

/-!
# Verdicts

A verdict keeps everything that was found out about a candidate, not only whether it passed, so that
a caller can tell a candidate that is too long from one that lost something.  Callers may also put
verdicts together on their own, out of any values: these are kept as they are given, and only where
a decision hangs on one of them does it count as yes or no.
-/

namespace FidelityGate

/-- The checks that can fail, in the order in which failures are reported. -/
inductive Reason where
  | constraintsLost
  | todosLost
  | evidenceLost
  | savingTooSmall
  deriving DecidableEq

namespace Reason

def all : List Reason :=
  [.constraintsLost, .todosLost, .evidenceLost, .savingTooSmall]

def code : Reason → String
  | .constraintsLost => "constraints_lost"
  | .todosLost => "pending_todos_lost"
  | .evidenceLost => "evidence_refs_lost"
  | .savingTooSmall => "saving_below_threshold"

def ofCode? (code : String) : Option Reason :=
  all.find? fun reason ↦ reason.code = code

theorem ofCode?_code (reason : Reason) : ofCode? reason.code = some reason := by
  cases reason <;> decide

end Reason

structure Verdict where
  passed : Value
  saving : Value
  constraintsLost : Value
  todosLost : Value
  evidenceLost : Value
  reasons : List Reason := []
  required : Value := .double .zero
  beforeLength : Value := .int 0
  afterLength : Value := .int 0

namespace Verdict

def isPassed (verdict : Verdict) : Bool :=
  verdict.passed.isTrue

/-- The codes of all reasons, divided by commas. -/
def reason (verdict : Verdict) : String :=
  ",".intercalate (verdict.reasons.map Reason.code)

/-- The first of the three findings of a loss that stands for yes; if none does, the last one. -/
def lostState (verdict : Verdict) : Value :=
  if verdict.constraintsLost.isTrue then verdict.constraintsLost
  else if verdict.todosLost.isTrue then verdict.todosLost
  else verdict.evidenceLost

/-- Nothing for a verdict that passed, its reason for any other. -/
def diagnosis? (verdict : Verdict) : Option String :=
  if verdict.isPassed then none else some verdict.reason

def text (verdict : Verdict) : String :=
  if verdict.isPassed then "passed" else "failed: " ++ verdict.reason

/-- Equality of all fields, where numbers are compared by value. -/
def eqv (a b : Verdict) : Bool :=
  a.passed.eqv b.passed && a.saving.eqv b.saving && a.constraintsLost.eqv b.constraintsLost &&
    a.todosLost.eqv b.todosLost && a.evidenceLost.eqv b.evidenceLost && a.reasons = b.reasons &&
      a.required.eqv b.required && a.beforeLength.eqv b.beforeLength &&
        a.afterLength.eqv b.afterLength

/-- The verdict that follows from a saving and from what was lost: every failed check is a
reason, in the fixed order, and a candidate passes when there is none. -/
def conclude (saving required : Number) (constraintsLost todosLost evidenceLost : Bool)
    (beforeLength afterLength : Nat) : Verdict :=
  let enough := required.le saving
  { passed := .bool (!constraintsLost && !todosLost && !evidenceLost && enough)
    saving := saving.toValue
    constraintsLost := .bool constraintsLost
    todosLost := .bool todosLost
    evidenceLost := .bool evidenceLost
    reasons :=
      (if constraintsLost then [.constraintsLost] else []) ++
        (if todosLost then [.todosLost] else []) ++
          (if evidenceLost then [.evidenceLost] else []) ++
            (if enough then [] else [.savingTooSmall])
    required := required.toValue
    beforeLength := .int beforeLength
    afterLength := .int afterLength }

/-- A concluded verdict passes exactly if it has no reasons. -/
theorem isPassed_conclude (saving required : Number)
    (constraintsLost todosLost evidenceLost : Bool) (beforeLength afterLength : Nat) :
    (conclude saving required constraintsLost todosLost evidenceLost beforeLength
      afterLength).isPassed =
        (conclude saving required constraintsLost todosLost evidenceLost beforeLength
          afterLength).reasons.isEmpty := by
  cases constraintsLost <;> cases todosLost <;> cases evidenceLost <;>
    cases h : required.le saving <;> simp [conclude, isPassed, Value.isTrue, h]

end Verdict

end FidelityGate
