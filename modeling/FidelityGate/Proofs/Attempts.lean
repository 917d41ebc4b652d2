import FidelityGate.Proofs.Adoption
import FidelityGate.Retry
import Mathlib.Logic.Function.Iterate

/-!
# Attempts

A run of a compressor is a row of rejected attempts, followed by one that ends it or by giving up.
Both parts are stated here about the compressor and the judgement alone, without the loop, and the
loop is shown to do exactly what they say: which feedback each call gets, how often the compressor
is called, what the run comes to, and what is put on record.
-/

namespace FidelityGate

/-! ## Reading the pack in use again and again -/

/-- A candidate after it was read so many times. -/
def Candidate.readTimes (count : Nat) (candidate : Candidate) : Candidate :=
  Candidate.spent^[count] candidate

namespace Candidate

@[simp] theorem readTimes_zero (candidate : Candidate) : candidate.readTimes 0 = candidate := rfl

theorem readTimes_succ (count : Nat) (candidate : Candidate) :
    candidate.readTimes (count + 1) = candidate.spent.readTimes count := rfl

@[simp] theorem readTimes_pack (count : Nat) (p : Pack) :
    (Candidate.pack p).readTimes count = .pack p :=
  Function.iterate_fixed (spent_pack p) count

end Candidate

namespace Retry

variable {ε : Type}

/-! ## What attempts come to -/

/-- From the given history on, attempts are rejected one after the other with these verdicts. -/
def Rejects (compressor : Compressor ε) (ratio : Number) :
    (before : Candidate) → (history rejected : List Verdict) → Prop
  | _before, _history, [] => True
  | before, history, verdict :: rest =>
    (∃ after, (compressor history).proposal before = .ok after ∧
      judge before after (.number ratio) = .ok verdict ∧ verdict.isPassed = false) ∧
        Rejects compressor ratio before.spent (history ++ [verdict]) rest

/-- After the given history, an attempt ends the run: the compressor fails, its proposal cannot be
judged, or it passes. -/
inductive Stops (compressor : Compressor ε) (ratio : Number) (before : Candidate)
    (history : List Verdict) : Prop
  | fails (failure : ε) (h : compressor history = .fails failure)
  | faults (after : Candidate) (fault : Fault)
      (hproposal : (compressor history).proposal before = .ok after)
      (hjudge : judge before after (.number ratio) = .error fault)
  | passes (after : Candidate) (verdict : Verdict)
      (hproposal : (compressor history).proposal before = .ok after)
      (hjudge : judge before after (.number ratio) = .ok verdict)
      (hpassed : verdict.isPassed = true)

variable {compressor : Compressor ε} {ratio : Number}

theorem stops_or_rejected (compressor : Compressor ε) (ratio : Number) (before : Candidate)
    (history : List Verdict) :
    Stops compressor ratio before history ∨
      ∃ verdict, Rejects compressor ratio before history [verdict] := by
  cases hproposal : (compressor history).proposal before with
  | error failure =>
      cases hreply : compressor history with
      | unchanged => simp [Reply.proposal, hreply] at hproposal
      | offers after => simp [Reply.proposal, hreply] at hproposal
      | fails failure => exact .inl (.fails failure hreply)
  | ok after =>
      cases hjudge : judge before after (.number ratio) with
      | error fault => exact .inl (.faults after fault hproposal hjudge)
      | ok verdict =>
          cases hpassed : verdict.isPassed with
          | true => exact .inl (.passes after verdict hproposal hjudge hpassed)
          | false => exact .inr ⟨verdict, ⟨after, hproposal, hjudge, hpassed⟩, trivial⟩

/-- Attempts are rejected until the run ends or as many were rejected as were allowed. -/
theorem exists_rejects (compressor : Compressor ε) (ratio : Number) (allowed : Nat)
    (before : Candidate) (history : List Verdict) :
    ∃ rejected, Rejects compressor ratio before history rejected ∧
      (rejected.length = allowed ∨
        rejected.length < allowed ∧
          Stops compressor ratio (before.readTimes rejected.length) (history ++ rejected)) := by
  -- On the attempts that are left, with a pack in use and a history that change at each of them.
  induction allowed generalizing before history with
  | zero => exact ⟨[], trivial, .inl rfl⟩
  | succ allowed ih =>
      rcases stops_or_rejected compressor ratio before history with
        hstops | ⟨verdict, hfirst, _⟩
      · exact ⟨[], trivial, .inr ⟨Nat.succ_pos allowed, by simpa using hstops⟩⟩
      · obtain ⟨rejected, hrest, hend⟩ := ih before.spent (history ++ [verdict])
        refine ⟨verdict :: rejected, ⟨hfirst, hrest⟩, ?_⟩
        rcases hend with hlength | ⟨hlength, hstops⟩
        · exact .inl (by simp [hlength])
        · exact .inr ⟨by simpa using hlength,
            by simpa [Candidate.readTimes_succ] using hstops⟩

theorem Rejects.append_iff {before : Candidate} {history first second : List Verdict} :
    Rejects compressor ratio before history (first ++ second) ↔
      Rejects compressor ratio before history first ∧
        Rejects compressor ratio (before.readTimes first.length) (history ++ first) second := by
  induction first generalizing before history with
  | nil => simp [Rejects]
  | cons verdict first ih =>
      simp only [List.cons_append, Rejects, ih, List.length_cons, Candidate.readTimes_succ,
        List.append_assoc, List.nil_append, and_assoc]

theorem Rejects.exists_judge {before : Candidate} {history rejected : List Verdict}
    {verdict : Verdict} (h : Rejects compressor ratio before history rejected)
    (hmem : verdict ∈ rejected) :
    ∃ count after, judge (before.readTimes count) after (.number ratio) = .ok verdict := by
  obtain ⟨earlier, later, rfl⟩ := List.append_of_mem hmem
  obtain ⟨-, ⟨after, -, hjudge, -⟩, -⟩ := Rejects.append_iff.mp h
  exact ⟨earlier.length, after, hjudge⟩

theorem Rejects.isPassed_eq_false {before : Candidate} {history rejected : List Verdict}
    {verdict : Verdict} (h : Rejects compressor ratio before history rejected)
    (hmem : verdict ∈ rejected) : verdict.isPassed = false := by
  obtain ⟨earlier, later, rfl⟩ := List.append_of_mem hmem
  obtain ⟨-, ⟨after, -, -, hfailed⟩, -⟩ := Rejects.append_iff.mp h
  exact hfailed

/-! ## What rejected attempts leave behind -/

/-- The feedback of the calls that led to the rejections. -/
def feedbacks : (history rejected : List Verdict) → List (Option Verdict)
  | _history, [] => []
  | history, verdict :: rest => history.getLast? :: feedbacks (history ++ [verdict]) rest

/-- With the call after the rejections, the feedback is nothing at first and then each verdict. -/
theorem feedbacks_append_getLast? (history rejected : List Verdict) :
    feedbacks history rejected ++ [(history ++ rejected).getLast?] =
      history.getLast? :: rejected.map some := by
  induction rejected generalizing history with
  | nil => simp [feedbacks]
  | cons verdict rest ih =>
      have hrest := ih (history ++ [verdict])
      rw [List.append_assoc, List.singleton_append] at hrest
      rw [feedbacks, List.cons_append, hrest]
      simp

theorem feedbacks_nil_append (rejected : List Verdict) :
    feedbacks [] rejected ++ [rejected.getLast?] = none :: rejected.map some :=
  feedbacks_append_getLast? [] rejected

theorem feedbacks_append (history first second : List Verdict) :
    feedbacks history (first ++ second) =
      feedbacks history first ++ feedbacks (history ++ first) second := by
  induction first generalizing history with
  | nil => simp [feedbacks]
  | cons verdict first ih => simp [feedbacks, ih]

theorem feedbacks_concat (history earlier : List Verdict) (last : Verdict) :
    feedbacks history (earlier ++ [last]) = history.getLast? :: earlier.map some := by
  rw [feedbacks_append, ← feedbacks_append_getLast?]
  rfl

/-- What is put on record for the rejections: each verdict, and that it was a rejection. -/
def rejectionEvents (allowed : Int) : (history rejected : List Verdict) → List Event
  | _history, [] => []
  | history, verdict :: rest =>
    .judged verdict :: .rejectedAttempt (history.length + 1) allowed verdict.reason ::
      rejectionEvents allowed (history ++ [verdict]) rest

/-- The run with the calls and events of the rejections in front. -/
def behind (allowed : Int) (history rejected : List Verdict) (run : Run ε) : Run ε :=
  { run with
    calls := feedbacks history rejected ++ run.calls
    events := rejectionEvents allowed history rejected ++ run.events }

theorem rejectionEvents_append (allowed : Int) (history first second : List Verdict) :
    rejectionEvents allowed history (first ++ second) =
      rejectionEvents allowed history first ++
        rejectionEvents allowed (history ++ first) second := by
  induction first generalizing history with
  | nil => simp [rejectionEvents]
  | cons verdict first ih => simp [rejectionEvents, ih]

theorem behind_concat (allowed : Int) (history earlier : List Verdict) (last : Verdict)
    (run : Run ε) :
    behind allowed history (earlier ++ [last]) run =
      behind allowed history earlier (run.after (history ++ earlier).getLast?
        [.judged last, .rejectedAttempt ((history ++ earlier).length + 1) allowed
          last.reason]) := by
  simp [behind, feedbacks_append, rejectionEvents_append, feedbacks, rejectionEvents, Run.after]

section Attempt

variable {allowance : Allowance} {before after : Candidate} {history : List Verdict}
  {verdict : Verdict} {onRejection : Verdict → Run ε}

theorem attempt_of_fails {failure : ε} (h : compressor history = .fails failure) :
    attempt compressor ratio allowance before history onRejection =
      ⟨.error (.compressor failure), [history.getLast?], []⟩ := by
  simp [attempt, h, Reply.proposal]

theorem attempt_of_faults {fault : Fault}
    (hproposal : (compressor history).proposal before = .ok after)
    (hjudge : judge before after (.number ratio) = .error fault) :
    attempt compressor ratio allowance before history onRejection =
      ⟨.error (.fault fault), [history.getLast?], []⟩ := by
  simp [attempt, hproposal, inspect, hjudge, Run.halt, Run.after]

theorem attempt_of_passes (hproposal : (compressor history).proposal before = .ok after)
    (hjudge : judge before after (.number ratio) = .ok verdict)
    (hpassed : verdict.isPassed = true) :
    attempt compressor ratio allowance before history onRejection =
      (accept before after history verdict).after history.getLast? [.judged verdict] := by
  simp [attempt, hproposal, inspect, hjudge, hpassed]

theorem attempt_of_rejected (h : Rejects compressor ratio before history [verdict]) :
    attempt compressor ratio allowance before history onRejection =
      (onRejection verdict).after history.getLast?
        [.judged verdict, .rejectedAttempt (history.length + 1) allowance.count
          verdict.reason] := by
  obtain ⟨⟨after, hproposal, hjudge, hfailed⟩, _⟩ := h
  simp [attempt, hproposal, inspect, hjudge, hfailed]

end Attempt

/-- A run is its rejected attempts, followed by the run from there. -/
theorem Rejects.attempts_eq {allowance : Allowance} {before : Candidate}
    {history rejected : List Verdict} (h : Rejects compressor ratio before history rejected)
    (further : Nat) :
    attempts compressor ratio allowance (rejected.length + further) before history =
      behind allowance.count history rejected
        (attempts compressor ratio allowance further (before.readTimes rejected.length)
          (history ++ rejected)) := by
  induction rejected generalizing before history with
  | nil => simp [behind, feedbacks, rejectionEvents]
  | cons verdict rest ih =>
      have hlength : (verdict :: rest).length + further = rest.length + further + 1 := by
        rw [List.length_cons]
        omega
      rw [hlength, attempts_succ, attempt_of_rejected ⟨h.1, trivial⟩, ih h.2]
      simp [behind, feedbacks, rejectionEvents, Run.after, Candidate.readTimes_succ]

/-! ## What a run comes to -/

/-- Every attempt that is allowed begins with a call, whatever is done if it is rejected. -/
theorem exists_attempts_eq_attempt (compressor : Compressor ε) (ratio : Number)
    (allowance : Allowance) (further : Nat) (before : Candidate) (history : List Verdict) :
    ∃ onRejection, attempts compressor ratio allowance further before history =
      attempt compressor ratio allowance before history onRejection := by
  cases further with
  | zero => exact ⟨_, attempts_zero ..⟩
  | succ further => exact ⟨_, attempts_succ ..⟩

theorem accept_pack {before : Candidate} {after : Pack} {rejected : List Verdict}
    {verdict : Verdict} (hpassed : verdict.isPassed = true) :
    (accept before (.pack after) rejected verdict : Run ε) =
      ⟨.ok {
        pack := .pack (after.stamp verdict)
        accepted := true
        verdict
        attempts := .int (rejected.length + 1)
        history := if rejected = [] then none else some (rejected.map Verdict.reason) }, [],
        [.acceptedAttempt (rejected.length + 1) verdict]⟩ := by
  simp [accept, settle, hpassed, Candidate.stamp]

theorem accept_of_not_pack {before after : Candidate} {rejected : List Verdict}
    {verdict : Verdict} (hpassed : verdict.isPassed = true) (hafter : ∀ p, after ≠ .pack p) :
    ∃ fault, (accept before after rejected verdict : Run ε) = .halt (.object fault) := by
  cases hstamp : after.stamp verdict with
  | error fault => exact ⟨fault, by simp [accept, settle, hpassed, hstamp]⟩
  | ok stamped =>
      obtain ⟨p, hp, -⟩ := Candidate.stamp_eq_ok_iff.mp hstamp
      exact absurd hp (hafter p)

end Retry

end FidelityGate
