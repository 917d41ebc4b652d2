import FidelityGate.Proofs.Run
import FidelityGate.Proofs.SavingOrder

/-!
# Enforcement

No ratio that can be requested or configured switches the size check off.  The ratio that a verdict
names is positive, so a pack never passes in place of itself: not in a judgement, not in a review,
and not in a run, where it uses up all attempts.
-/

namespace FidelityGate

/-! ## Every verdict -/

/-- The verdict names a positive ratio, and passes only for a shorter text that meets it. -/
def Verdict.IsStrict (verdict : Verdict) : Prop :=
  ∃ (required : Number) (saved : Binary64) (beforeLength afterLength : Nat),
    verdict.required = required.toValue ∧ verdict.saving = .double saved ∧
    verdict.beforeLength = .int beforeLength ∧ verdict.afterLength = .int afterLength ∧
    required.isPositive = true ∧ required ≠ .double .nan ∧
    (verdict.isPassed = true →
      required.le (.double saved) = true ∧ (Number.double saved).le (.int 1) = true ∧
        afterLength < beforeLength)

section Strict

variable {before after : Candidate} {request : Requested} {verdict : Verdict}

theorem judge_isStrict (h : judge before after request = .ok verdict) : verdict.IsStrict := by
  obtain ⟨findings, hof, rfl⟩ := judge_eq_ok_iff.mp h
  have hpositive : findings.required.isPositive = true := Requested.ratio_isPositive hof.required
  refine ⟨findings.required, findings.saved, findings.beforeLength, findings.afterLength, rfl, rfl,
    rfl, rfl, hpositive, ?_, ?_⟩
  · intro hnan
    rw [hnan] at hpositive
    cases hpositive
  · intro hpassed
    obtain ⟨-, henough⟩ := (Verdict.isPassed_ofEntries_iff ..).mp hpassed
    have hsaved := Number.isPositive_of_le hpositive henough
    exact ⟨henough, saving_le_one hof.saved, hof.afterLength_lt hsaved⟩

theorem review_isStrict {policy : Option Policy} {decision : Decision}
    (h : (review before after request policy).outcome = .ok decision) :
    decision.verdict.IsStrict := by
  obtain ⟨ratio, verdict, -, hjudge, hend⟩ := review_eq_ok_cases h
  have hverdict : decision.verdict = verdict := by
    rcases hend with ⟨_, -, -, rfl⟩ | ⟨-, rfl⟩ <;> rfl
  rw [hverdict]
  exact judge_isStrict hjudge

theorem shown_isStrict {ε : Type} {compressor : Compressor ε} {policy : Policy}
    (h : verdict ∈ (compressor.run before policy request).shown) : verdict.IsStrict := by
  obtain ⟨count, after, hjudge⟩ := Compressor.exists_judge_of_mem_shown h
  exact judge_isStrict hjudge

end Strict

/-! ## A pack in place of itself -/

/-- Nothing is lost and nothing is saved, which is the only reason to reject. -/
structure Verdict.SavesNothing (verdict : Verdict) : Prop where
  failed : verdict.isPassed = false
  saving : verdict.saving = .double .zero
  constraintsLost : verdict.constraintsLost = .bool false
  todosLost : verdict.todosLost = .bool false
  evidenceLost : verdict.evidenceLost = .bool false
  reasons : verdict.reasons = [.savingTooSmall]

theorem Verdict.savesNothing_ofEntries {required : Number} (hpositive : required.isPositive = true)
    (ids : Identifiers) (beforeLength afterLength : Nat) :
    (ofEntries .zero required ids ids beforeLength afterLength).SavesNothing := by
  have hkept (texts : List String) :
      Identifiers.isLost (Pack.visible texts) (Pack.visible texts) = false :=
    Identifiers.isLost_visible_eq_false_iff.mpr (Text.Kept.refl texts)
  have hless : required.le (.double .zero) = false := by
    rw [← Bool.not_eq_true]
    intro henough
    have hzero := Number.isPositive_of_le hpositive henough
    exact absurd hzero (by decide +kernel)
  constructor <;>
    simp [ofEntries, conclude, isPassed, Value.isTrue, Number.toValue, Identifiers.visible, hkept,
      hless]

theorem judge_self (pack : Pack) {request : Requested} {required : Number}
    (h : request.ratio = .ok required) :
    ∃ verdict, judge (.pack pack) (.pack pack) request = .ok verdict ∧ verdict.SavesNothing := by
  refine ⟨_, judge_pack_eq_ok_iff.mpr ⟨required, .zero, h, saving_self _, rfl⟩, ?_⟩
  exact Verdict.savesNothing_ofEntries (Requested.ratio_isPositive h) ..

theorem review_self (pack : Pack) (ratio : Option Number) (policy : Option Policy) :
    ∃ verdict : Verdict, verdict.SavesNothing ∧
      (review (.pack pack) (.pack pack) (.ofNumber ratio) policy).outcome =
        .ok { pack := .pack pack, accepted := false, verdict } := by
  obtain ⟨required, hunder⟩ := Requested.exists_under ratio policy
  have hratio : (Requested.number required).ratio = .ok required.orDefault := rfl
  obtain ⟨verdict, hjudge, hnothing⟩ := judge_self pack hratio
  refine ⟨verdict, hnothing, ?_⟩
  rw [review_pack hunder, hjudge]
  simp [Except.map, Verdict.decision, hnothing.failed]

namespace Retry

theorem rejects_replicate {ε : Type} {compressor : Compressor ε} {ratio : Number} {pack : Pack}
    {after : Candidate} {verdict : Verdict}
    (hproposal : ∀ history, (compressor history).proposal (.pack pack) = .ok after)
    (hjudge : judge (.pack pack) after (.number ratio) = .ok verdict)
    (hfailed : verdict.isPassed = false) (count : Nat) (history : List Verdict) :
    Rejects compressor ratio (.pack pack) history (List.replicate count verdict) := by
  -- On the count, for all histories: a pack is read without being used up, but the history grows.
  induction count generalizing history with
  | zero => trivial
  | succ count ih =>
      rw [List.replicate_succ]
      exact ⟨⟨after, hproposal history, hjudge, hfailed⟩, ih (history ++ [verdict])⟩

end Retry

section Unchanged

variable {ε : Type} {compressor : Compressor ε} {pack : Pack} {policy : Policy}
  {request : Requested} {allowance : Allowance}

/-- A compressor that never changes the pack uses up all attempts. -/
theorem Compressor.run_of_unchanged
    (hunchanged : ∀ history, (compressor history).proposal (.pack pack) = .ok (.pack pack))
    (h : request.allowance policy = .ok allowance) :
    ∃ verdict : Verdict, verdict.SavesNothing ∧
      (compressor.run (.pack pack) policy request).calls =
        none :: List.replicate (allowance.count.toNat - 1) (some verdict) ∧
      (compressor.run (.pack pack) policy request).outcome =
        if allowance.raises then
          .error (.fault (.exhausted allowance.given.toValue verdict.reason (some verdict)))
        else .ok {
          pack := .pack pack
          accepted := false
          verdict
          attempts := allowance.given.toValue
          history := some (List.replicate allowance.count.toNat verdict.reason) } := by
  have hratio := Requested.ratio_number policy.required_isPositive
  obtain ⟨verdict, hjudge, hnothing⟩ := judge_self pack hratio
  have hcount := Requested.one_le_count h
  obtain ⟨earlier, hearlier⟩ : ∃ earlier, allowance.count.toNat = earlier + 1 :=
    ⟨allowance.count.toNat - 1, by omega⟩
  have hrejects := Retry.rejects_replicate hunchanged hjudge hnothing.failed (earlier + 1) []
  -- The last rejection counts apart, as it is not followed by a call.
  rw [List.replicate_succ'] at hrejects
  have hrun := run_of_rejects h hrejects (by simp [hearlier]) (Candidate.readTimes_pack _ pack)
  refine ⟨verdict, hnothing, ?_, ?_⟩
  · rw [hrun, hearlier]
    simp
  · rw [hrun, hearlier]
    simp [List.replicate_succ']

end Unchanged

/-- Every verdict is strict, whoever asks for it and with whatever ratio.  A pack that is proposed
in place of itself is rejected for its size alone, however often that is tried. -/
theorem size_is_always_checked :
    (∀ before after request verdict, judge before after request = .ok verdict →
      verdict.IsStrict) ∧
    (∀ before after request policy decision,
      (review before after request policy).outcome = .ok decision → decision.verdict.IsStrict) ∧
    (∀ {ε : Type} (compressor : Compressor ε) before policy request,
      ∀ verdict ∈ (compressor.run before policy request).shown, verdict.IsStrict) ∧
    ∀ pack : Pack,
      (∀ ratio, ∃ verdict,
        judge (.pack pack) (.pack pack) (.ofNumber ratio) = .ok verdict ∧
          verdict.SavesNothing) ∧
      (∀ ratio policy, ∃ verdict : Verdict, verdict.SavesNothing ∧
        (review (.pack pack) (.pack pack) (.ofNumber ratio) policy).outcome =
          .ok { pack := .pack pack, accepted := false, verdict }) ∧
      ∀ {ε : Type} (compressor : Compressor ε) policy request allowance,
        (∀ history, (compressor history).proposal (.pack pack) = .ok (.pack pack)) →
        request.allowance policy = .ok allowance →
          ∃ verdict : Verdict, verdict.SavesNothing ∧
            (compressor.run (.pack pack) policy request).calls =
              none :: List.replicate (allowance.count.toNat - 1) (some verdict) ∧
            (compressor.run (.pack pack) policy request).outcome =
              if allowance.raises then
                .error (.fault (.exhausted allowance.given.toValue verdict.reason (some verdict)))
              else .ok {
                pack := .pack pack
                accepted := false
                verdict
                attempts := allowance.given.toValue
                history := some (List.replicate allowance.count.toNat verdict.reason) } := by
  refine ⟨?_, ?_, ?_, fun pack ↦ ⟨?_, ?_, ?_⟩⟩
  · intro before after request verdict h
    exact judge_isStrict h
  · intro before after request policy decision h
    exact review_isStrict h
  · intro ε compressor before policy request verdict h
    exact shown_isStrict h
  · intro ratio
    obtain ⟨required, hrequired⟩ := Requested.exists_ratio ratio
    exact judge_self pack hrequired
  · intro ratio policy
    exact review_self pack ratio policy
  · intro ε compressor policy request allowance hunchanged h
    exact Compressor.run_of_unchanged hunchanged h

end FidelityGate
