import FidelityGate.Proofs.Attempts
import Mathlib.Data.List.ReduceOption

/-!
# Runs

What a run of a compressor comes to.  The first attempt that passes is accepted with the count and
the reasons of the rejections before it; a run whose attempts are all rejected gives up with the
last verdict; and whatever the compressor or the judgement fails with ends the run at once.
-/

namespace FidelityGate

section Run

open Retry

variable {ε : Type} {compressor : Compressor ε} {before : Candidate} {policy : Policy}
  {request : Requested} {allowance : Allowance} {rejected : List Verdict}

theorem Requested.allowance_ofInt_eq_ok_iff {given : Number} {count : Int} :
    Requested.allowance.ofInt policy given count = .ok allowance ↔
      1 ≤ count ∧ allowance = ⟨given, count, policy.raises⟩ := by
  unfold Requested.allowance.ofInt
  split
  · simp only [reduceCtorEq, false_iff]
    omega
  · rw [Except.ok.injEq, eq_comm]
    exact (and_iff_right (by omega)).symm

theorem Requested.one_le_count (h : request.allowance policy = .ok allowance) :
    1 ≤ allowance.count := by
  rcases request with _ | (_ | _ | x) | _
  · obtain ⟨hcount, rfl⟩ := allowance_ofInt_eq_ok_iff.mp h
    exact hcount
  · obtain ⟨hcount, rfl⟩ := allowance_ofInt_eq_ok_iff.mp h
    exact hcount
  · obtain ⟨hcount, rfl⟩ := allowance_ofInt_eq_ok_iff.mp h
    exact hcount
  · simp only [Requested.allowance] at h
    split at h <;> cases h
  · cases h

namespace Compressor

theorem run_eq_attempts (h : request.allowance policy = .ok allowance) :
    compressor.run before policy request =
      attempts compressor policy.required allowance (allowance.count.toNat - 1) before [] := by
  simp [run, h]

/-- A run whose rejections do not use up its attempts goes on with one more. -/
theorem exists_run_eq_behind_attempt (h : request.allowance policy = .ok allowance)
    (hrejects : Rejects compressor policy.required before [] rejected)
    (hlength : rejected.length < allowance.count.toNat) :
    ∃ onRejection, compressor.run before policy request =
      behind allowance.count [] rejected
        (attempt compressor policy.required allowance (before.readTimes rejected.length) rejected
          onRejection) := by
  obtain ⟨further, hfurther⟩ : ∃ further, allowance.count.toNat - 1 = rejected.length + further :=
    ⟨allowance.count.toNat - 1 - rejected.length, by omega⟩
  obtain ⟨onRejection, hattempt⟩ := exists_attempts_eq_attempt compressor policy.required allowance
    further (before.readTimes rejected.length) rejected
  refine ⟨onRejection, ?_⟩
  rw [run_eq_attempts h, hfurther, hrejects.attempts_eq, List.nil_append, hattempt]

section Stops

variable {current after : Candidate} {verdict : Verdict}
  (h : request.allowance policy = .ok allowance)
  (hrejects : Rejects compressor policy.required before [] rejected)
  (hlength : rejected.length < allowance.count.toNat)

include h hrejects hlength

theorem run_of_fails {failure : ε} (hfails : compressor rejected = .fails failure) :
    compressor.run before policy request =
      ⟨.error (.compressor failure), none :: rejected.map some,
        rejectionEvents allowance.count [] rejected⟩ := by
  obtain ⟨onRejection, hrun⟩ := exists_run_eq_behind_attempt h hrejects hlength
  rw [hrun, attempt_of_fails hfails, behind, feedbacks_nil_append, List.append_nil]

variable (hcurrent : before.readTimes rejected.length = current)

include hcurrent

theorem run_of_faults {fault : Fault} (hproposal : (compressor rejected).proposal current = .ok after)
    (hjudge : judge current after (.number policy.required) = .error fault) :
    compressor.run before policy request =
      ⟨.error (.fault fault), none :: rejected.map some,
        rejectionEvents allowance.count [] rejected⟩ := by
  obtain ⟨onRejection, hrun⟩ := exists_run_eq_behind_attempt h hrejects hlength
  rw [hrun, hcurrent, attempt_of_faults hproposal hjudge, behind, feedbacks_nil_append,
    List.append_nil]

theorem run_of_passes (hproposal : (compressor rejected).proposal current = .ok after)
    (hjudge : judge current after (.number policy.required) = .ok verdict)
    (hpassed : verdict.isPassed = true) :
    compressor.run before policy request =
      behind allowance.count [] rejected
        ((accept current after rejected verdict).after rejected.getLast? [.judged verdict]) := by
  obtain ⟨onRejection, hrun⟩ := exists_run_eq_behind_attempt h hrejects hlength
  rw [hrun, hcurrent, attempt_of_passes hproposal hjudge hpassed]

theorem run_of_passes_pack {pack : Pack}
    (hproposal : (compressor rejected).proposal current = .ok (.pack pack))
    (hjudge : judge current (.pack pack) (.number policy.required) = .ok verdict)
    (hpassed : verdict.isPassed = true) :
    compressor.run before policy request =
      ⟨.ok {
        pack := .pack (pack.stamp verdict)
        accepted := true
        verdict
        attempts := .int (rejected.length + 1)
        history := if rejected = [] then none else some (rejected.map Verdict.reason) },
        none :: rejected.map some,
        rejectionEvents allowance.count [] rejected ++
          [.judged verdict, .acceptedAttempt (rejected.length + 1) verdict]⟩ := by
  rw [run_of_passes h hrejects hlength hcurrent hproposal hjudge hpassed, accept_pack hpassed]
  simp [behind, Run.after, feedbacks_nil_append]

end Stops

theorem run_of_rejects {current : Candidate} {earlier : List Verdict} {last : Verdict}
    (h : request.allowance policy = .ok allowance)
    (hrejects : Rejects compressor policy.required before [] (earlier ++ [last]))
    (hlength : earlier.length + 1 = allowance.count.toNat)
    (hcurrent : before.readTimes earlier.length = current) :
    compressor.run before policy request =
      ⟨if allowance.raises then
          .error (.fault (.exhausted allowance.given.toValue last.reason (some last)))
        else .ok {
          pack := current
          accepted := false
          verdict := last
          attempts := allowance.given.toValue
          history := some ((earlier ++ [last]).map Verdict.reason) },
        none :: earlier.map some,
        rejectionEvents allowance.count [] (earlier ++ [last]) ++
          [.exhausted allowance.count last.reason]⟩ := by
  obtain ⟨hearlier, hlast⟩ := Rejects.append_iff.mp hrejects
  have hfurther : allowance.count.toNat - 1 = earlier.length + 0 := by omega
  have hrun : compressor.run before policy request =
      behind allowance.count [] (earlier ++ [last])
        (giveUp allowance current (earlier ++ [last]) last) := by
    rw [run_eq_attempts h, hfurther, hearlier.attempts_eq, attempts_zero,
      attempt_of_rejected hlast, behind_concat, hcurrent]
    rfl
  rw [hrun, behind, feedbacks_concat, giveUp]
  split <;> simp

/-- The ways in which a run ends if it is allowed any attempts. -/
inductive Ends (compressor : Compressor ε) (before : Candidate) (policy : Policy)
    (allowance : Allowance) (run : Run ε) : Prop
  | fails (rejected : List Verdict) (failure : ε)
      (hrejects : Rejects compressor policy.required before [] rejected)
      (hlength : rejected.length < allowance.count.toNat)
      (hfails : compressor rejected = .fails failure)
      (hrun : run =
        ⟨.error (.compressor failure), none :: rejected.map some,
          rejectionEvents allowance.count [] rejected⟩)
  | faults (rejected : List Verdict) (after : Candidate) (fault : Fault)
      (hrejects : Rejects compressor policy.required before [] rejected)
      (hlength : rejected.length < allowance.count.toNat)
      (hproposal : (compressor rejected).proposal (before.readTimes rejected.length) = .ok after)
      (hjudge : judge (before.readTimes rejected.length) after (.number policy.required) =
        .error fault)
      (hrun : run =
        ⟨.error (.fault fault), none :: rejected.map some,
          rejectionEvents allowance.count [] rejected⟩)
  | cannotStamp (rejected : List Verdict) (after : Candidate) (verdict : Verdict)
      (fault : EntryFault)
      (hrejects : Rejects compressor policy.required before [] rejected)
      (hlength : rejected.length < allowance.count.toNat)
      (hproposal : (compressor rejected).proposal (before.readTimes rejected.length) = .ok after)
      (hjudge : judge (before.readTimes rejected.length) after (.number policy.required) =
        .ok verdict)
      (hpassed : verdict.isPassed = true) (hafter : ∀ pack, after ≠ .pack pack)
      (hrun : run =
        ⟨.error (.fault (.object fault)), none :: rejected.map some,
          rejectionEvents allowance.count [] rejected ++ [.judged verdict]⟩)
  | accepts (rejected : List Verdict) (pack : Pack) (verdict : Verdict)
      (hrejects : Rejects compressor policy.required before [] rejected)
      (hlength : rejected.length < allowance.count.toNat)
      (hproposal : (compressor rejected).proposal (before.readTimes rejected.length) =
        .ok (.pack pack))
      (hjudge : judge (before.readTimes rejected.length) (.pack pack) (.number policy.required) =
        .ok verdict)
      (hpassed : verdict.isPassed = true)
      (hrun : run =
        ⟨.ok {
          pack := .pack (pack.stamp verdict)
          accepted := true
          verdict
          attempts := .int (rejected.length + 1)
          history := if rejected = [] then none else some (rejected.map Verdict.reason) },
          none :: rejected.map some,
          rejectionEvents allowance.count [] rejected ++
            [.judged verdict, .acceptedAttempt (rejected.length + 1) verdict]⟩)
  | exhausts (earlier : List Verdict) (last : Verdict)
      (hrejects : Rejects compressor policy.required before [] (earlier ++ [last]))
      (hlength : earlier.length + 1 = allowance.count.toNat)
      (hrun : run =
        ⟨if allowance.raises then
            .error (.fault (.exhausted allowance.given.toValue last.reason (some last)))
          else .ok {
            pack := before.readTimes earlier.length
            accepted := false
            verdict := last
            attempts := allowance.given.toValue
            history := some ((earlier ++ [last]).map Verdict.reason) },
          none :: earlier.map some,
          rejectionEvents allowance.count [] (earlier ++ [last]) ++
            [.exhausted allowance.count last.reason]⟩)

theorem run_ends (h : request.allowance policy = .ok allowance) :
    Ends compressor before policy allowance (compressor.run before policy request) := by
  obtain ⟨rejected, hrejects, hend⟩ := exists_rejects compressor policy.required
    allowance.count.toNat before []
  rcases hend with hlength | ⟨hlength, hstops⟩
  · have hcount := Requested.one_le_count h
    rcases List.eq_nil_or_concat' rejected with rfl | ⟨earlier, last, rfl⟩
    · rw [List.length_nil] at hlength
      omega
    · have hsucc : earlier.length + 1 = allowance.count.toNat := by simpa using hlength
      exact .exhausts earlier last hrejects hsucc (run_of_rejects h hrejects hsucc rfl)
  · cases hstops with
    | fails failure hfails =>
        exact .fails rejected failure hrejects hlength hfails
          (run_of_fails h hrejects hlength hfails)
    | faults after fault hproposal hjudge =>
        exact .faults rejected after fault hrejects hlength hproposal hjudge
          (run_of_faults h hrejects hlength rfl hproposal hjudge)
    | passes after verdict hproposal hjudge hpassed =>
        by_cases hpack : ∃ pack, after = .pack pack
        · obtain ⟨pack, rfl⟩ := hpack
          exact .accepts rejected pack verdict hrejects hlength hproposal hjudge hpassed
            (run_of_passes_pack h hrejects hlength rfl hproposal hjudge hpassed)
        · have hafter : ∀ pack, after ≠ .pack pack := fun pack heq ↦ hpack ⟨pack, heq⟩
          obtain ⟨fault, hfault⟩ := accept_of_not_pack hpassed hafter
          refine .cannotStamp rejected after verdict fault hrejects hlength hproposal hjudge
            hpassed hafter ?_
          rw [run_of_passes h hrejects hlength rfl hproposal hjudge hpassed, hfault]
          simp [behind, Run.after, Run.halt, feedbacks_nil_append]

/-- A run with a decision accepts the first pack that passes, or keeps the one in use after as many
rejections as were allowed. -/
theorem run_eq_ok_cases {decision : Decision}
    (h : (compressor.run before policy request).outcome = .ok decision) :
    ∃ allowance rejected, request.allowance policy = .ok allowance ∧
      Rejects compressor policy.required before [] rejected ∧
        ((∃ pack verdict,
          (compressor rejected).proposal (before.readTimes rejected.length) = .ok (.pack pack) ∧
          judge (before.readTimes rejected.length) (.pack pack) (.number policy.required) =
            .ok verdict ∧ verdict.isPassed = true ∧ decision = {
              pack := .pack (pack.stamp verdict)
              accepted := true
              verdict
              attempts := .int (rejected.length + 1)
              history := if rejected = [] then none else some (rejected.map Verdict.reason) }) ∨
          ∃ earlier last, rejected = earlier ++ [last] ∧ decision = {
            pack := before.readTimes earlier.length
            accepted := false
            verdict := last
            attempts := allowance.given.toValue
            history := some (rejected.map Verdict.reason) }) := by
  cases hallowance : request.allowance policy with
  | error fault => simp [run, hallowance, Run.halt] at h
  | ok allowance =>
      cases run_ends hallowance with
      | fails _ _ _ _ _ hrun
      | faults _ _ _ _ _ _ _ hrun
      | cannotStamp _ _ _ _ _ _ _ _ _ _ hrun =>
          rw [hrun] at h
          cases h
      | accepts rejected pack verdict hrejects _ hproposal hjudge hpassed hrun =>
          rw [hrun] at h
          exact ⟨allowance, rejected, rfl, hrejects,
            .inl ⟨pack, verdict, hproposal, hjudge, hpassed, (Except.ok.inj h).symm⟩⟩
      | exhausts earlier last hrejects _ hrun =>
          rw [hrun] at h
          cases hraises : allowance.raises with
          | true => simp [hraises] at h
          | false =>
              simp only [hraises, Bool.false_eq_true, if_false, Except.ok.injEq] at h
              exact ⟨allowance, _, rfl, hrejects, .inr ⟨earlier, last, rfl, h.symm⟩⟩

end Compressor

/-- The verdicts that can be seen from outside: the feedback of all calls, and the verdict of the
decision or, if there is none, the one that the fault carries. -/
def Run.shown (run : Run ε) : List Verdict :=
  run.calls.reduceOption ++
    match run.outcome with
    | .ok decision => [decision.verdict]
    | .error (.fault fault) => fault.verdict?.toList
    | .error (.compressor _) => []

theorem Requested.allowance_failsOnly (policy : Policy) (request : Requested) :
    Except.FailsOnly Fault.IsBare (request.allowance policy) := by
  have hcount (given : Number) (count : Int) :
      Except.FailsOnly Fault.IsBare (allowance.ofInt policy given count) := by
    intro fault h
    unfold allowance.ofInt at h
    split at h <;> cases h
    rfl
  rcases request with _ | (_ | _ | x) | kind
  · exact hcount _ _
  · exact hcount _ _
  · exact hcount _ _
  · intro fault h
    simp only [Requested.allowance] at h
    split at h <;> cases h <;> rfl
  · rintro fault ⟨⟩
    rfl

theorem reduceOption_feedbacks (rejected : List Verdict) :
    (none :: rejected.map some).reduceOption = rejected := by
  rw [List.reduceOption_cons_of_none, List.reduceOption, List.filterMap_map]
  exact List.filterMap_some

theorem Compressor.exists_judge_of_mem_shown {verdict : Verdict}
    (h : verdict ∈ (compressor.run before policy request).shown) :
    ∃ count after,
      judge (before.readTimes count) after (.number policy.required) = .ok verdict := by
  cases hallowance : request.allowance policy with
  | error fault =>
      have hbare : fault.verdict? = none := request.allowance_failsOnly policy fault hallowance
      simp [run, hallowance, Run.halt, Run.shown, hbare] at h
  | ok allowance =>
      cases run_ends hallowance with
      | fails rejected failure hrejects _ _ hrun =>
          rw [hrun, Run.shown, reduceOption_feedbacks] at h
          have hmem : verdict ∈ rejected := by simpa using h
          exact hrejects.exists_judge hmem
      | faults rejected after fault hrejects _ _ hjudge hrun =>
          have hbare : fault.verdict? = none := judge_failsOnly _ _ _ fault hjudge
          rw [hrun, Run.shown, reduceOption_feedbacks] at h
          have hmem : verdict ∈ rejected := by simpa [hbare] using h
          exact hrejects.exists_judge hmem
      | cannotStamp rejected after verdict' fault hrejects _ _ _ _ _ hrun =>
          rw [hrun, Run.shown, reduceOption_feedbacks] at h
          have hmem : verdict ∈ rejected := by simpa [Fault.verdict?] using h
          exact hrejects.exists_judge hmem
      | accepts rejected pack last hrejects _ _ hjudge _ hrun =>
          rw [hrun, Run.shown, reduceOption_feedbacks] at h
          have hmem : verdict ∈ rejected ∨ verdict = last := by simpa using h
          rcases hmem with hmem | rfl
          · exact hrejects.exists_judge hmem
          · exact ⟨_, _, hjudge⟩
      | exhausts earlier last hrejects _ hrun =>
          rw [hrun, Run.shown, reduceOption_feedbacks] at h
          have hmem : verdict ∈ earlier ++ [last] := by
            cases hraises : allowance.raises <;> simpa [hraises, Fault.verdict?] using h
          exact hrejects.exists_judge hmem

end Run

/-- A number of attempts that may be left open. -/
def Requested.ofCount : Option Int → Requested
  | none => .absent
  | some n => .number (.int n)

theorem Requested.allowance_ofCount (policy : Policy) (count : Option Int) :
    (ofCount count).allowance policy =
      if count.getD policy.attempts < 1 then
        .error (.tooFewAttempts (.int (count.getD policy.attempts)))
      else
        .ok ⟨.int (count.getD policy.attempts), count.getD policy.attempts, policy.raises⟩ := by
  cases count <;> rfl

open Retry in
/-- A compressor is called with the verdict on each rejected proposal until one passes, and a
stamped copy of this one is what the run decides on.  A failure on the way ends the run; too many
rejections end it in a fault or with the pack it began with, as the policy has it. -/
theorem Compressor.run_of_pack {ε : Type} (compressor : Compressor ε) (before : Pack)
    (config : Option Policy) (maxAttempts : Option Int) :
    let policy := config.getD {}
    let n := maxAttempts.getD policy.attempts
    let run := compressor.run (.pack before) policy (.ofCount maxAttempts)
    let Rejected := Rejects compressor policy.required (.pack before) []
    (n < 1 → run.outcome = .error (.fault (.tooFewAttempts (.int n))) ∧ run.calls = []) ∧
    (1 ≤ n →
      (∀ rejected, Rejected rejected → rejected.length < n →
        -- The next attempt passes.
        (∀ after verdict, (compressor rejected).proposal (.pack before) = .ok (.pack after) →
          judge (.pack before) (.pack after) (.number policy.required) = .ok verdict →
          verdict.isPassed = true →
            run.calls = none :: rejected.map some ∧
            run.outcome = .ok {
              pack := .pack { after with saving := verdict.saving, quality := true }
              accepted := true
              verdict
              attempts := .int (rejected.length + 1)
              history := if rejected = [] then none else some (rejected.map Verdict.reason) }) ∧
        -- It ends in a failure of the compressor, or of the judgement.
        (∀ failure, compressor rejected = .fails failure →
          run.calls = none :: rejected.map some ∧
          run.outcome = .error (.compressor failure)) ∧
        (∀ after fault, (compressor rejected).proposal (.pack before) = .ok after →
          judge (.pack before) after (.number policy.required) = .error fault →
            run.calls = none :: rejected.map some ∧ run.outcome = .error (.fault fault))) ∧
      -- All attempts are rejected.
      (∀ earlier last, Rejected (earlier ++ [last]) → earlier.length + 1 = n →
        run.calls = none :: earlier.map some ∧
        run.outcome =
          if policy.raises then .error (.fault (.exhausted (.int n) last.reason (some last)))
          else .ok {
            pack := .pack before
            accepted := false
            verdict := last
            attempts := .int n
            history := some ((earlier ++ [last]).map Verdict.reason) }) ∧
      -- There is no other way.
      ∃ rejected, Rejected rejected ∧
        (rejected.length = n ∨
          rejected.length < n ∧ Stops compressor policy.required (.pack before) rejected)) := by
  intro policy n run Rejected
  have hallowance := Requested.allowance_ofCount policy maxAttempts
  refine ⟨fun hn ↦ ?_, fun hn ↦ ?_⟩
  · rw [if_pos hn] at hallowance
    simp [run, Compressor.run, hallowance, Run.halt, n]
  · rw [if_neg (by omega)] at hallowance
    have hbefore (count : Nat) := Candidate.readTimes_pack count before
    refine ⟨fun rejected hrejected hlength ↦ ?_, ?_, ?_⟩
    · have hlt : rejected.length < n.toNat := by omega
      refine ⟨?_, ?_, ?_⟩
      · intro after verdict hproposal hjudge hpassed
        have hrun :=
          run_of_passes_pack hallowance hrejected hlt (hbefore _) hproposal hjudge hpassed
        exact ⟨congrArg Run.calls hrun, congrArg Run.outcome hrun⟩
      · intro failure hfails
        have hrun := run_of_fails hallowance hrejected hlt hfails
        exact ⟨congrArg Run.calls hrun, congrArg Run.outcome hrun⟩
      · intro after fault hproposal hjudge
        have hrun := run_of_faults hallowance hrejected hlt (hbefore _) hproposal hjudge
        exact ⟨congrArg Run.calls hrun, congrArg Run.outcome hrun⟩
    · intro earlier last hrejected hlength
      have heq : earlier.length + 1 = n.toNat := by omega
      have hrun := run_of_rejects hallowance hrejected heq (hbefore _)
      exact ⟨congrArg Run.calls hrun, congrArg Run.outcome hrun⟩
    · obtain ⟨rejected, hrejected, hend⟩ := exists_rejects compressor policy.required n.toNat
        (.pack before) []
      refine ⟨rejected, hrejected, ?_⟩
      rw [hbefore, List.nil_append] at hend
      rcases hend with hlength | ⟨hlength, hstops⟩
      · exact .inl (by omega)
      · exact .inr ⟨by omega, hstops⟩

end FidelityGate
