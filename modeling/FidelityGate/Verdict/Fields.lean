import FidelityGate.Fault

/-!
# Verdicts as fields

A verdict can be taken apart into named fields and built from them again.  Building checks the
reason codes first, then that every name is known, then that no field without a default is missing.
Nothing else is checked: the values are kept as they are given.
-/

namespace FidelityGate.Verdict

def fields (verdict : Verdict) : List (String × Value) :=
  [("passed", verdict.passed),
    ("saving_ratio", verdict.saving),
    ("required_saving_ratio", verdict.required),
    ("missing_constraints", verdict.constraintsLost),
    ("missing_pending_todos", verdict.todosLost),
    ("missing_evidence_refs", verdict.evidenceLost),
    ("reason_codes", .list (verdict.reasons.map fun reason ↦ .text reason.code)),
    ("before_length", verdict.beforeLength),
    ("after_length", verdict.afterLength)]

def toValue (verdict : Verdict) : Value :=
  .object verdict.fields

def requiredNames : List String :=
  ["passed", "saving_ratio", "missing_constraints", "missing_pending_todos",
    "missing_evidence_refs"]

def knownNames : List String :=
  requiredNames ++ ["reason_codes", "required_saving_ratio", "before_length", "after_length"]

/-- The name under which a verdict that is being built knows itself; it cannot be given again. -/
def ownName : String := "self"

def readReason (v : Value) : Except Fault Reason :=
  let reason? := match v with
    | .text code => Reason.ofCode? code
    | _ => none
  match reason? with
  | some reason => .ok reason
  | none => .error (.unknownReason v)

def readReasons : List Value → Except Fault (List Reason)
  | [] => .ok []
  | v :: rest => do
    let reason ← readReason v
    let reasons ← readReasons rest
    return reason :: reasons

/-- The reasons that a value lists by their codes. -/
def reasonsOf (v : Value) : Except Fault (List Reason) :=
  match v.items? with
  | some codes => readReasons codes
  | none => .error (.object (.notIterable v.kindName))

/-- Refuses the first name that is not one of the fields. -/
def checkNames : List (String × Value) → Except Fault Unit
  | [] => .ok ()
  | (name, _) :: rest =>
    if knownNames.contains name then checkNames rest
    else if name = ownName then .error (.repeatedArgument name)
    else .error (.unexpectedArgument name)

def ofFields (fields : List (String × Value)) : Except Fault Verdict := do
  let optional (name : String) (default : Value) : Value :=
    (Value.lookup? name fields).getD default
  let reasons ← reasonsOf (optional "reason_codes" (.list []))
  checkNames fields
  match Value.lookup? "passed" fields, Value.lookup? "saving_ratio" fields,
    Value.lookup? "missing_constraints" fields, Value.lookup? "missing_pending_todos" fields,
    Value.lookup? "missing_evidence_refs" fields with
  | some passed, some saving, some constraintsLost, some todosLost, some evidenceLost =>
    .ok {
      passed
      saving
      constraintsLost
      todosLost
      evidenceLost
      reasons
      required := optional "required_saving_ratio" (.double .zero)
      beforeLength := optional "before_length" (.int 0)
      afterLength := optional "after_length" (.int 0) }
  | _, _, _, _, _ =>
    .error (.missingArguments
      (requiredNames.filter fun name ↦ (Value.lookup? name fields).isNone))

end FidelityGate.Verdict
