import FidelityGate.Panel.Line
import FidelityGate.Value.Format

/-!
# The content of a panel

A panel shows a verdict: the saving against the required ratio, whether each kind of identifier was
kept, and the reasons.  Its content is lines of pieces, each with the ink in which it is shown;
where lines are broken and how inks are written is left to the layout.
-/

namespace FidelityGate.Panel

structure Content where
  passed : Bool
  lines : List Line
  deriving DecidableEq

def piece (ink : Ink) (text : String) : Piece :=
  ⟨ink, text.toList⟩

def labelWidth : Nat := 11

def keptLine (label : String) (lost : Bool) : Line :=
  let padding := List.replicate (labelWidth - label.length) ' '
  [⟨.faint, ' ' :: ' ' :: (label.toList ++ padding)⟩,
    if lost then piece .bad "lost" else piece .good "kept"]

def isMet (verdict : Verdict) : Except Fault Bool :=
  match verdict.saving.atLeast verdict.required with
  | .ok met => .ok met
  | .error (kind, other) => .error (.unordered .atLeast kind other)

def savingLine (verdict : Verdict) (met : Bool) (saving required : String) : Line :=
  [piece .faint "  saving:    ",
    piece (if met then .good else .bad) saving,
    piece .faint (" (required " ++ required ++ ", "),
    piece .faint (verdict.beforeLength.written ++ " -> " ++ verdict.afterLength.written ++
      " chars)")]

def reasonLine (reasons : List Reason) : Line :=
  if reasons.isEmpty then []
  else [piece .faint "  reasons:   ", piece .warning (", ".intercalate (reasons.map Reason.code))]

def content (verdict : Verdict) : Except Fault Content := do
  let met ← isMet verdict
  let saving ← verdict.saving.toPercent
  let required ← verdict.required.toPercent
  return {
    passed := verdict.isPassed
    lines := [
      savingLine verdict met saving required,
      keptLine "constraints" verdict.constraintsLost.isTrue,
      keptLine "todos" verdict.todosLost.isTrue,
      keptLine "evidence" verdict.evidenceLost.isTrue,
      reasonLine verdict.reasons] }

end FidelityGate.Panel
