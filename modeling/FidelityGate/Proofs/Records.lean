import FidelityGate.Proofs.Run
import FidelityGate.Proofs.SavingOrder

/-!
# Records of a run

What is put on record during a run tells how the run went.  Each rejected attempt leaves two
records, of the verdict and of its number, in this order; a run that accepts a pack or gives up
leaves those of its end behind them, and a run that is broken off leaves nothing more.
-/

namespace FidelityGate

section Records

open Retry

variable {ε : Type} {compressor : Compressor ε} {before : Pack} {policy : Policy}
  {request : Requested} {allowance : Allowance} {verdict : Verdict}

def Run.records (run : Run ε) : List Record :=
  run.events.map Event.record

/-! ## The record of a verdict -/

/-- The verdict has a record, with its ratios to three places. -/
def Verdict.Noted (verdict : Verdict) : Prop :=
  ∃ (saved required : Binary64) (m n : Nat),
    verdict.saving = .double saved ∧ verdict.required = .double required ∧
    verdict.beforeLength = .int m ∧ verdict.afterLength = .int n ∧
    (Event.judged verdict).record = {
      level := .debug
      recorder := "contextgate.verifier"
      text? := some ("Fidelity check: saving " ++ saved.toFixed 3 ++ " (required " ++
        required.toFixed 3 ++ "), " ++ Text.ofInt m ++ " -> " ++ Text.ofInt n ++
          " code points, reasons='" ++ verdict.reason ++ "'") }

theorem Event.ratioText?_double (x : Binary64) : ratioText? (.double x) = some (x.toFixed 3) :=
  rfl

theorem noted_of_judge {current after : Candidate}
    (h : judge current after (.number policy.required) = .ok verdict) : verdict.Noted := by
  obtain ⟨⟨required, m, n, saved⟩, hof, rfl⟩ := judge_eq_ok_iff.mp h
  obtain ⟨x, hx, -⟩ := policy.exists_required
  obtain rfl : required = .double x := hof.required_eq.trans hx
  refine ⟨saved, x, m, n, rfl, rfl, rfl, rfl, ?_⟩
  simp [Event.record, Event.level, Event.recorder, Recorder.name, Event.message?, Findings.verdict,
    Verdict.ofEntries, Verdict.conclude, Number.toValue, Event.ratioText?_double, Value.written,
    Value.shown, Number.text]

theorem Event.record_acceptedAttempt (attempt : Nat) {saved : Binary64}
    (h : verdict.saving = .double saved) :
    (Event.acceptedAttempt attempt verdict).record = {
      level := .info
      recorder := "contextgate.gate"
      text? := some ("Accepted compressed pack on attempt " ++ Text.ofInt attempt ++ " (saving " ++
        saved.toFixed 3 ++ ")") } := by
  rw [record, message?, h]
  rfl

/-! ## The records of rejected attempts -/

/-- The records of one rejected attempt, of so many that are allowed. -/
def attemptRecords (allowed : Int) (attempt : Nat) (verdict : Verdict) : List Record :=
  [(Event.judged verdict).record, {
    level := .debug
    recorder := "contextgate.gate"
    text? := some ("Compression attempt " ++ Text.ofInt attempt ++ "/" ++ Text.ofInt allowed ++
      " rejected: " ++ verdict.reason) }]

def rejectionRecords (allowed : Int) (rejected : List Verdict) : List Record :=
  (rejected.zipIdx 1).flatMap fun entry ↦ attemptRecords allowed entry.2 entry.1

theorem map_record_rejectionEvents (allowed : Int) (history rejected : List Verdict) :
    (rejectionEvents allowed history rejected).map Event.record =
      (rejected.zipIdx (history.length + 1)).flatMap fun entry ↦
        attemptRecords allowed entry.2 entry.1 := by
  induction rejected generalizing history with
  | nil => rfl
  | cons verdict rest ih =>
      rw [rejectionEvents, List.map_cons, List.map_cons, ih, List.length_append, List.zipIdx_cons,
        List.flatMap_cons]
      rfl

theorem length_rejectionRecords (allowed : Int) (rejected : List Verdict) :
    (rejectionRecords allowed rejected).length = 2 * rejected.length := by
  have htwo : ∀ entry ∈ rejected.zipIdx 1, (attemptRecords allowed entry.2 entry.1).length = 2 :=
    fun _ _ ↦ rfl
  rw [rejectionRecords, List.length_flatMap, List.map_congr_left htwo, List.map_const',
    List.sum_replicate_nat, List.length_zipIdx, Nat.mul_comm]

/-! ## What else is put on record -/

/-- An answer that a run can deal with: a pack, something that is no valid input of a judgement, or
a failure. -/
inductive Reply.IsOrderly (before : Candidate) (ratio : Number) : Reply ε → Prop
  | unchanged : IsOrderly before ratio .unchanged
  | pack (after : Pack) (h : after.rendering.length < 2 ^ 63) :
      IsOrderly before ratio (.offers (.pack after))
  | invalid (after : Candidate) (role : String) (problem : InputProblem)
      (h : judge before after (.number ratio) = .error (.invalidInput role problem)) :
      IsOrderly before ratio (.offers after)
  | fails (failure : ε) : IsOrderly before ratio (.fails failure)

/-- What is put on record at the end of a run, behind its rejected attempts, and why. -/
inductive LastRecords (compressor : Compressor ε) (before : Pack) (policy : Policy)
    (allowed : Int) (rejected : List Verdict) : List Record → Prop
  | accepts (after : Pack) (verdict : Verdict) (saved : Binary64)
      (hlength : rejected.length < allowed)
      (hproposal : (compressor rejected).proposal (.pack before) = .ok (.pack after))
      (hjudge : judge (.pack before) (.pack after) (.number policy.required) = .ok verdict)
      (hpassed : verdict.isPassed = true) (hreason : verdict.reason = "")
      (hsaved : verdict.saving = .double saved) :
      LastRecords compressor before policy allowed rejected [(Event.judged verdict).record, {
        level := .info
        recorder := "contextgate.gate"
        text? := some ("Accepted compressed pack on attempt " ++
          Text.ofInt (rejected.length + 1 : Nat) ++ " (saving " ++ saved.toFixed 3 ++ ")") }]
  | exhausts (last : Verdict) (hlast : rejected.getLast? = some last)
      (hlength : rejected.length = allowed) :
      LastRecords compressor before policy allowed rejected [{
        level := .warning
        recorder := "contextgate.gate"
        text? := some ("Compression rejected after " ++ Text.ofInt allowed ++
          " attempt(s); keeping original pack (" ++ last.reason ++ ")") }]
  | fails (failure : ε) (hlength : rejected.length < allowed)
      (hfails : compressor rejected = .fails failure) :
      LastRecords compressor before policy allowed rejected []
  | invalid (after : Candidate) (role : String) (problem : InputProblem)
      (hlength : rejected.length < allowed)
      (hproposal : (compressor rejected).proposal (.pack before) = .ok after)
      (hjudge : judge (.pack before) after (.number policy.required) =
        .error (.invalidInput role problem)) :
      LastRecords compressor before policy allowed rejected []

/-- The diagnosis that an event reports of a rejected attempt. -/
def Event.diagnosis? : Event → Option String
  | .rejectedAttempt _ _ reason => some reason
  | _ => none

def Run.diagnoses (run : Run ε) : List String :=
  run.events.filterMap Event.diagnosis?

theorem filterMap_diagnosis?_rejectionEvents (allowed : Int) (history rejected : List Verdict) :
    (rejectionEvents allowed history rejected).filterMap Event.diagnosis? =
      rejected.map Verdict.reason := by
  induction rejected generalizing history with
  | nil => rfl
  | cons verdict rest ih =>
      have hreason (n : Nat) : Event.diagnosis? (.rejectedAttempt n allowed verdict.reason) =
          some verdict.reason := rfl
      rw [rejectionEvents, List.filterMap_cons_none rfl, List.filterMap_cons_some (hreason _), ih,
        List.map_cons]

theorem judged_mem_rejectionEvents {allowed : Int} {history rejected : List Verdict} :
    .judged verdict ∈ rejectionEvents allowed history rejected ↔ verdict ∈ rejected := by
  induction rejected generalizing history with
  | nil => simp [rejectionEvents]
  | cons first rest ih => simp [rejectionEvents, ih]

/-- The records of a run are those of its rejected attempts, and the last ones behind them. -/
structure Run.Tells (run : Run ε) (allowed : Int) (rejected : List Verdict) (last : List Record) :
    Prop where
  records : run.records = rejectionRecords allowed rejected ++ last
  length : run.records.length = 2 * rejected.length + last.length
  noted : ∀ verdict, .judged verdict ∈ run.events → verdict.Noted
  diagnoses : run.diagnoses = rejected.map Verdict.reason
  history : ∀ decision, run.outcome = .ok decision → decision.history.getD [] = run.diagnoses

theorem Run.tells_of_events {allowed : Int} {rejected : List Verdict} {run : Run ε}
    {ending : List Event}
    (hrejects : Rejects compressor policy.required (.pack before) [] rejected)
    (hevents : run.events = rejectionEvents allowed [] rejected ++ ending)
    (hending : ∀ event ∈ ending, event.diagnosis? = none)
    (hnoted : ∀ verdict, .judged verdict ∈ ending → verdict.Noted)
    (hhistory : ∀ decision, run.outcome = .ok decision →
      decision.history.getD [] = rejected.map Verdict.reason) :
    run.Tells allowed rejected (ending.map Event.record) := by
  have hrecords : run.records =
      rejectionRecords allowed rejected ++ ending.map Event.record := by
    rw [records, hevents, List.map_append, map_record_rejectionEvents]
    rfl
  have hdiagnoses : run.diagnoses = rejected.map Verdict.reason := by
    rw [diagnoses, hevents, List.filterMap_append, filterMap_diagnosis?_rejectionEvents,
      List.filterMap_eq_nil_iff.mpr hending, List.append_nil]
  refine ⟨hrecords, ?_, ?_, hdiagnoses, ?_⟩
  · rw [hrecords, List.length_append, length_rejectionRecords]
  · intro verdict hmem
    rw [hevents, List.mem_append, judged_mem_rejectionEvents] at hmem
    rcases hmem with hmem | hmem
    · obtain ⟨count, after, hjudge⟩ := hrejects.exists_judge hmem
      exact noted_of_judge hjudge
    · exact hnoted verdict hmem
  · rw [hdiagnoses]
    exact hhistory

theorem Run.tells_of_error {allowed : Int} {rejected : List Verdict} {run : Run ε}
    {setback : Setback ε} {calls : List (Option Verdict)}
    (hrejects : Rejects compressor policy.required (.pack before) [] rejected)
    (hrun : run = ⟨.error setback, calls, rejectionEvents allowed [] rejected⟩) :
    run.Tells allowed rejected [] := by
  have hevents : run.events = rejectionEvents allowed [] rejected ++ [] := by
    rw [hrun, List.append_nil]
  refine tells_of_events hrejects hevents (by simp) (by simp) ?_
  intro decision hdecision
  rw [hrun] at hdecision
  cases hdecision

/-! ## Whole runs -/

theorem Reply.IsOrderly.judge_cases {ratio : Number} {reply : Reply ε} {after : Candidate}
    (h : reply.IsOrderly (.pack before) ratio)
    (hproposal : reply.proposal (.pack before) = .ok after) :
    (∃ pack verdict, after = .pack pack ∧
      judge (.pack before) after (.number ratio) = .ok verdict) ∨
    ∃ role problem,
      judge (.pack before) after (.number ratio) = .error (.invalidInput role problem) := by
  cases h with
  | unchanged =>
      obtain rfl := Except.ok.inj hproposal
      have hsaved : ∃ saved, saving before.rendering.length before.rendering.length = .ok saved :=
        ⟨_, saving_self _⟩
      obtain ⟨verdict, hjudge⟩ := exists_judge_pack hsaved ratio
      exact .inl ⟨before, verdict, rfl, hjudge⟩
  | pack pack hlength =>
      obtain rfl := Except.ok.inj hproposal
      obtain ⟨verdict, hjudge⟩ := exists_judge_pack (exists_saving_of_lt _ hlength) ratio
      exact .inl ⟨pack, verdict, rfl, hjudge⟩
  | invalid _ role problem hjudge =>
      obtain rfl := Except.ok.inj hproposal
      exact .inr ⟨role, problem, hjudge⟩
  | fails failure => cases hproposal

/-- The records of a run on orderly answers are two for each rejected attempt and those of its end,
and the diagnoses in them are its history. -/
theorem records_tell_the_run (hallowance : request.allowance policy = .ok allowance)
    (horderly : ∀ rejected, Rejects compressor policy.required (.pack before) [] rejected →
      rejected.length < allowance.count →
        (compressor rejected).IsOrderly (.pack before) policy.required) :
    ∃ rejected last, Rejects compressor policy.required (.pack before) [] rejected ∧
      LastRecords compressor before policy allowance.count rejected last ∧
      (compressor.run (.pack before) policy request).Tells allowance.count rejected last := by
  have hbefore (count : Nat) := Candidate.readTimes_pack count before
  have hends : Compressor.Ends compressor (.pack before) policy allowance _ :=
    Compressor.run_ends hallowance
  cases hends with
  | fails rejected failure hrejects hlength hfails hrun =>
      exact ⟨rejected, [], hrejects, .fails failure (by omega) hfails,
        Run.tells_of_error hrejects hrun⟩
  | faults rejected after fault hrejects hlength hproposal hjudge hrun =>
      rw [hbefore] at hproposal hjudge
      have hlt : rejected.length < allowance.count := by omega
      rcases (horderly rejected hrejects hlt).judge_cases hproposal with
        ⟨_, verdict, -, hverdict⟩ | ⟨role, problem, hinvalid⟩
      · rw [hjudge] at hverdict
        cases hverdict
      · exact ⟨rejected, [], hrejects, .invalid after role problem hlt hproposal hinvalid,
          Run.tells_of_error hrejects hrun⟩
  -- Of orderly answers only packs have verdicts.
  | cannotStamp rejected after verdict fault hrejects hlength hproposal hjudge _ hafter _ =>
      rw [hbefore] at hproposal hjudge
      rcases (horderly rejected hrejects (by omega)).judge_cases hproposal with
        ⟨pack, _, hpack, -⟩ | ⟨role, problem, hinvalid⟩
      · exact absurd hpack (hafter pack)
      · rw [hjudge] at hinvalid
        cases hinvalid
  | accepts rejected pack verdict hrejects hlength hproposal hjudge hpassed hrun =>
      rw [hbefore] at hproposal hjudge
      obtain ⟨saved, hsaved⟩ : ∃ saved, verdict.saving = .double saved := by
        obtain ⟨_, saved, -, -, rfl⟩ := judge_pack_eq_ok_iff.mp hjudge
        exact ⟨saved, rfl⟩
      have hreason : verdict.reason = "" :=
        verdict.reason_eq_empty_iff.mpr ((judge_isPassed_iff hjudge).mp hpassed)
      refine ⟨rejected, _, hrejects,
        .accepts pack verdict saved (by omega) hproposal hjudge hpassed hreason hsaved, ?_⟩
      rw [← Event.record_acceptedAttempt _ hsaved]
      apply Run.tells_of_events hrejects (congrArg Run.events hrun)
      · simp [Event.diagnosis?]
      · intro other hother
        obtain rfl : other = verdict := by simpa using hother
        exact noted_of_judge hjudge
      · intro decision hdecision
        rw [hrun] at hdecision
        obtain rfl := Except.ok.inj hdecision
        by_cases hnone : rejected = [] <;> simp [hnone]
  | exhausts earlier last hrejects hlength hrun =>
      have hall : (earlier ++ [last]).length = allowance.count := by
        rw [List.length_append, List.length_singleton]
        omega
      refine ⟨_, _, hrejects, .exhausts last List.getLast?_concat hall, ?_⟩
      apply Run.tells_of_events hrejects (congrArg Run.events hrun)
      · simp [Event.diagnosis?]
      · simp
      · intro decision hdecision
        rw [hrun] at hdecision
        cases hraises : allowance.raises with
        | true => simp [hraises] at hdecision
        | false =>
            simp only [hraises, Bool.false_eq_true, if_false, Except.ok.injEq] at hdecision
            subst hdecision
            rfl

/-- Changes nothing at first, and then leaves out all but the constraint. -/
def secondTry : Compressor Empty
  | [] => .unchanged
  | _ :: _ => .offers (.pack { constraints := ["keep tests"] })

theorem records_tell_the_run_of_secondTry :
    (secondTry.run (.pack { objective := "ship it", constraints := ["keep tests"] }) {}
      .absent).records.map Record.level = [.debug, .debug, .debug, .info] ∧
    ∃ rejected last,
      LastRecords secondTry { objective := "ship it", constraints := ["keep tests"] } {} 3
        rejected last ∧
      (secondTry.run (.pack { objective := "ship it", constraints := ["keep tests"] }) {}
        .absent).Tells 3 rejected last := by
  have hallowance : Requested.absent.allowance {} = .ok ⟨.int 3, 3, false⟩ := rfl
  have horderly (history : List Verdict) :
      (secondTry history).IsOrderly
        (.pack { objective := "ship it", constraints := ["keep tests"] })
        (Policy.required {}) := by
    cases history with
    | nil => exact .unchanged
    | cons verdict rest => exact .pack { constraints := ["keep tests"] } (by decide +kernel)
  obtain ⟨rejected, last, -, hlast, htells⟩ :=
    records_tell_the_run hallowance fun history _ _ ↦ horderly history
  exact ⟨by decide +kernel, rejected, last, hlast, htells⟩

end Records

end FidelityGate
