import FidelityGate.Event
import FidelityGate.Judge
import FidelityGate.Policy
import FidelityGate.Value.Format

/-!
# Decisions

What a caller goes on with after a candidate was judged: the stamped candidate if it passed, and
the pack in use otherwise.  A stamp records the saving and that the quality was found
sufficient; nothing else of an accepted pack differs from the candidate.
-/

namespace FidelityGate

structure Decision where
  pack : Candidate
  accepted : Bool
  verdict : Verdict
  attempts : Value := .int 1
  history : Option (List String) := none

namespace Decision

def summary (decision : Decision) : Except Fault String :=
  (decision.verdict.saving.toFixed 3).map fun saving ↦
    "GateResult(" ++ (if decision.accepted then "accepted" else "rejected") ++ ", saving=" ++
      saving ++ ", attempts=" ++ decision.attempts.written ++ ")"

end Decision

def Pack.stamp (verdict : Verdict) (pack : Pack) : Pack :=
  { pack with saving := verdict.saving, quality := true }

@[simp] theorem Pack.rendering_stamp (verdict : Verdict) (pack : Pack) :
    (pack.stamp verdict).rendering = pack.rendering := rfl

@[simp] theorem Pack.shape_stamp (verdict : Verdict) (pack : Pack) :
    (pack.stamp verdict).shape = pack.shape := rfl

/-- Of all candidates only packs offer a copy of themselves to be stamped. -/
def Candidate.stamp (verdict : Verdict) : Candidate → Except EntryFault Candidate
  | .pack p => .ok (.pack (p.stamp verdict))
  | .provider p => .error (.missing (Candidate.provider p).kindName "model_copy")
  | .value v => (v.require "model_copy").bind fun found ↦ .error (.notCallable found.kindName)

/-- The decision that a verdict on a candidate leads to. -/
def settle (before after : Candidate) (verdict : Verdict) : Except Fault Decision :=
  if verdict.isPassed then
    match after.stamp verdict with
    | .ok stamped => .ok { pack := stamped, accepted := true, verdict }
    | .error fault => .error (.object fault)
  else
    .ok { pack := before, accepted := false, verdict }

structure Recorded (α : Type) where
  outcome : α
  events : List Event

/-- Judges a candidate and puts the verdict on record. -/
def inspect (before after : Candidate) (request : Requested) :
    Recorded (Except Fault Verdict) :=
  match judge before after request with
  | .ok verdict => ⟨.ok verdict, [.judged verdict]⟩
  | .error fault => ⟨.error fault, []⟩

/-- The ratio to ask for: a positive request wins, then the policy decides. -/
def Requested.under (policy : Option Policy) (request : Requested) : Except Fault Number :=
  let fallback := match policy with
    | some policy => policy.required
    | none => .zero
  match request with
  | .absent => .ok fallback
  | .number n => .ok (if n.isPositive then n else fallback)
  | .other kind => .error (.unordered .greater kind "int")

/-- Judges a candidate under a policy and decides. -/
def review (before after : Candidate) (request : Requested) (policy : Option Policy) :
    Recorded (Except Fault Decision) :=
  match request.under policy with
  | .error fault => ⟨.error fault, []⟩
  | .ok ratio =>
    match inspect before after (.number ratio) with
    | ⟨.error fault, events⟩ => ⟨.error fault, events⟩
    | ⟨.ok verdict, events⟩ =>
      match settle before after verdict with
      | .error fault => ⟨.error fault, events⟩
      | .ok decision =>
        ⟨.ok decision, if decision.accepted then events ++ [.accepted verdict] else events⟩

end FidelityGate
