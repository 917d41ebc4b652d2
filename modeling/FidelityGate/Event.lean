import FidelityGate.Value.Display
import FidelityGate.Verdict.Basic

/-!
# Events

What is put on record while candidates are judged, and the text of each record.  A record whose text
needs a number that is too large for a double has none.
-/

namespace FidelityGate

inductive Level where
  | debug
  | info
  | warning
  deriving DecidableEq

/-- Who keeps records, each under a name of its own. -/
inductive Recorder where
  | verifier
  | gate
  deriving DecidableEq

def Recorder.name : Recorder → String
  | .verifier => "contextgate.verifier"
  | .gate => "contextgate.gate"

structure Record where
  level : Level
  recorder : String
  text? : Option String
  deriving DecidableEq

inductive Event where
  | judged (verdict : Verdict)
  | accepted (verdict : Verdict)
  | rejectedAttempt (attempt : Nat) (allowed : Int) (reason : String)
  | acceptedAttempt (attempt : Nat) (verdict : Verdict)
  | exhausted (allowed : Int) (reason : String)

namespace Event

def level : Event → Level
  | .judged _ => .debug
  | .accepted _ => .info
  | .rejectedAttempt .. => .debug
  | .acceptedAttempt .. => .info
  | .exhausted .. => .warning

def recorder : Event → Recorder
  | .judged _ => .verifier
  | _ => .gate

/-- A ratio with three decimal places. -/
def ratioText? (ratio : Value) : Option String :=
  ratio.number?.bind (·.toFixed? 3)

def message? : Event → Option String
  | .judged verdict => do
    let saving ← ratioText? verdict.saving
    let required ← ratioText? verdict.required
    return "Fidelity check: saving " ++ saving ++ " (required " ++ required ++ "), " ++
      verdict.beforeLength.written ++ " -> " ++ verdict.afterLength.written ++
        " code points, reasons='" ++ verdict.reason ++ "'"
  | .accepted verdict =>
    (ratioText? verdict.saving).map fun saving ↦
      "Accepted compressed pack (saving " ++ saving ++ ")"
  | .rejectedAttempt attempt allowed reason =>
    some ("Compression attempt " ++ Text.ofInt attempt ++ "/" ++ Text.ofInt allowed ++
      " rejected: " ++ reason)
  | .acceptedAttempt attempt verdict =>
    (ratioText? verdict.saving).map fun saving ↦
      "Accepted compressed pack on attempt " ++ Text.ofInt attempt ++ " (saving " ++ saving ++ ")"
  | .exhausted allowed reason =>
    some ("Compression rejected after " ++ Text.ofInt allowed ++
      " attempt(s); keeping original pack (" ++ reason ++ ")")

def record (event : Event) : Record where
  level := event.level
  recorder := event.recorder.name
  text? := event.message?

end Event

end FidelityGate
