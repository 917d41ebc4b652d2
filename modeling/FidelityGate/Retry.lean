import FidelityGate.Decision

/-!
# Retrying a compressor

A compressor proposes candidates until one passes or its attempts are used up.  It is a function of
the verdicts on all its rejected proposals so far, the last of which is its feedback.  It may look
at the pack in use, but leaves it alone: neither does it change anything there, nor does it read a
stream.
-/

namespace FidelityGate

/-- A compressor's answer: the pack it was given, another candidate, or a failure of its own. -/
inductive Reply (ε : Type) where
  | unchanged
  | offers (after : Candidate)
  | fails (failure : ε)

abbrev Compressor (ε : Type) :=
  List Verdict → Reply ε

/-- The candidate that a reply stands for.  The pack it was given is read a second time, as the
candidate, after it was read as the pack in use. -/
def Reply.proposal {ε : Type} (before : Candidate) : Reply ε → Except ε Candidate
  | .unchanged => .ok before.spent
  | .offers after => .ok after
  | .fails failure => .error failure

inductive Setback (ε : Type) where
  | compressor (failure : ε)
  | fault (fault : Fault)

/-- An outcome, the feedback with which the compressor was called each time, and the events. -/
structure Run (ε : Type) where
  outcome : Except (Setback ε) Decision
  calls : List (Option Verdict)
  events : List Event

namespace Run

variable {ε : Type}

def halt (fault : Fault) : Run ε :=
  ⟨.error (.fault fault), [], []⟩

/-- The run with one more call and its events in front. -/
def after (feedback : Option Verdict) (events : List Event) (run : Run ε) : Run ε :=
  { run with calls := feedback :: run.calls, events := events ++ run.events }

end Run

structure Allowance where
  /-- The number as it was given. -/
  given : Number
  count : Int
  raises : Bool

namespace Retry

variable {ε : Type}

/-- The end of a run whose last proposal was rejected too. -/
def giveUp (allowance : Allowance) (before : Candidate) (rejected : List Verdict)
    (last : Verdict) : Run ε :=
  let event := Event.exhausted allowance.count last.reason
  if allowance.raises then
    ⟨.error (.fault (.exhausted allowance.given.toValue last.reason (some last))), [], [event]⟩
  else
    ⟨.ok {
      pack := before
      accepted := false
      verdict := last
      attempts := allowance.given.toValue
      history := some (rejected.map Verdict.reason) }, [], [event]⟩

/-- The end of a run with a proposal that passed. -/
def accept (before after : Candidate) (rejected : List Verdict) (verdict : Verdict) : Run ε :=
  let attempt := rejected.length + 1
  match settle before after verdict with
  | .error fault => .halt fault
  | .ok decision =>
    ⟨.ok { decision with
      attempts := .int attempt
      history := if rejected.isEmpty then none else some (rejected.map Verdict.reason) }, [],
      [.acceptedAttempt attempt verdict]⟩

/-- One attempt.  What follows on a rejection is left open. -/
def attempt (compressor : Compressor ε) (ratio : Number) (allowance : Allowance)
    (before : Candidate) (rejected : List Verdict) (onRejection : Verdict → Run ε) : Run ε :=
  let feedback := rejected.getLast?
  match (compressor rejected).proposal before with
  | .error failure => ⟨.error (.compressor failure), [feedback], []⟩
  | .ok after =>
    match inspect before after (.number ratio) with
    | ⟨.error fault, events⟩ => (Run.halt fault).after feedback events
    | ⟨.ok verdict, events⟩ =>
      if verdict.isPassed then
        (accept before after rejected verdict).after feedback events
      else
        (onRejection verdict).after feedback
          (events ++ [.rejectedAttempt (rejected.length + 1) allowance.count verdict.reason])

/-- One attempt, and up to `further` more.  Judging empties the streams of the pack in use, so later
attempts find it spent. -/
def attempts (compressor : Compressor ε) (ratio : Number) (allowance : Allowance) :
    (further : Nat) → (before : Candidate) → (rejected : List Verdict) → Run ε
  | 0, before, rejected =>
    attempt compressor ratio allowance before rejected fun verdict ↦
      giveUp allowance before (rejected ++ [verdict]) verdict
  | further + 1, before, rejected =>
    attempt compressor ratio allowance before rejected fun verdict ↦
      attempts compressor ratio allowance further before.spent (rejected ++ [verdict])

@[simp] theorem attempts_zero (compressor : Compressor ε) (ratio : Number)
    (allowance : Allowance) (before : Candidate) (rejected : List Verdict) :
    attempts compressor ratio allowance 0 before rejected =
      attempt compressor ratio allowance before rejected fun verdict ↦
        giveUp allowance before (rejected ++ [verdict]) verdict := rfl

@[simp] theorem attempts_succ (compressor : Compressor ε) (ratio : Number)
    (allowance : Allowance) (further : Nat) (before : Candidate) (rejected : List Verdict) :
    attempts compressor ratio allowance (further + 1) before rejected =
      attempt compressor ratio allowance before rejected fun verdict ↦
        attempts compressor ratio allowance further before.spent (rejected ++ [verdict]) := rfl

end Retry

/-- The attempts allowed: those requested, or those of the policy.  A truth value counts as one or
zero; a double is never a count, but one below one is reported as too few. -/
def Requested.allowance (policy : Policy) (request : Requested) : Except Fault Allowance :=
  match request with
  | .absent => ofInt (.int policy.attempts) policy.attempts
  | .number (.int n) => ofInt (.int n) n
  | .number (.bool b) => ofInt (.bool b) (if b then 1 else 0)
  | .number (.double x) =>
    if (Number.double x).lt (.int 1) then .error (.tooFewAttempts (.double x))
    else .error .notACount
  | .other kind => .error (.unordered .less kind "int")
where
  ofInt (given : Number) (count : Int) : Except Fault Allowance :=
    if count < 1 then .error (.tooFewAttempts given)
    else .ok ⟨given, count, policy.raises⟩

/-- Calls a compressor until a proposal passes or the attempts are used up. -/
def Compressor.run {ε : Type} (compressor : Compressor ε) (before : Candidate) (policy : Policy)
    (request : Requested) : Run ε :=
  match request.allowance policy with
  | .error fault => .halt fault
  | .ok allowance =>
    Retry.attempts compressor policy.required allowance (allowance.count.toNat - 1) before []

end FidelityGate
