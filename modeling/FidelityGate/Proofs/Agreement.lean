import FidelityGate.Proofs.Run

/-!
# Agreement

A judgement, a review and a run resolve the ratio to enforce in different ways and come to their
decisions apart from each other.  Asked for the same ratio they judge alike: a run with one attempt
decides as a review does, and a run of any length as a review of its last proposal.
-/

namespace FidelityGate

/-- A judgement depends on what was requested only through the ratio that is enforced. -/
theorem judge_congr {before after : Candidate} {request request' : Requested}
    (h : request.ratio = request'.ratio) :
    judge before after request = judge before after request' := by
  rw [judge, judge, h]

theorem judge_required (before after : Candidate) (policy : Policy) :
    judge before after (.number policy.required) =
      judge before after (.number (.double policy.ratio)) :=
  judge_congr (Requested.ratio_number policy.required_isPositive)

/-! ## One attempt -/

/-- What a single attempt comes to that is judged so. -/
def Verdict.settled {ε : Type} (before after : Pack) (raises : Bool) (verdict : Verdict) :
    Except (Setback ε) Decision :=
  if verdict.isPassed then .ok (verdict.decision before after)
  else if raises then .error (.fault (.exhausted (.int 1) verdict.reason (some verdict)))
  else .ok { verdict.decision before after with history := some [verdict.reason] }

section OneAttempt

variable {ε : Type} {compressor : Compressor ε} {before after : Pack}

theorem Compressor.run_one (policy : Policy)
    (hproposal : (compressor []).proposal (.pack before) = .ok (.pack after)) :
    (compressor.run (.pack before) policy (.ofCount (some 1))).outcome =
      match judge (.pack before) (.pack after) (.number policy.required) with
      | .error fault => .error (.fault fault)
      | .ok verdict => verdict.settled before after policy.raises := by
  have hallowance : (Requested.ofCount (some 1)).allowance policy =
      .ok ⟨.int 1, 1, policy.raises⟩ := rfl
  have hnone : Retry.Rejects compressor policy.required (.pack before) [] [] := trivial
  have hfirst : ([] : List Verdict).length < (1 : Int).toNat := by decide
  cases hjudge : judge (.pack before) (.pack after) (.number policy.required) with
  | error fault => rw [run_of_faults hallowance hnone hfirst rfl hproposal hjudge]
  | ok verdict =>
      cases hpassed : verdict.isPassed with
      | true =>
          rw [run_of_passes_pack hallowance hnone hfirst rfl hproposal hjudge hpassed]
          simp [Verdict.settled, Verdict.decision, hpassed]
      | false =>
          have hrejects : Retry.Rejects compressor policy.required (.pack before) []
              ([] ++ [verdict]) := ⟨⟨.pack after, hproposal, hjudge, hpassed⟩, trivial⟩
          rw [run_of_rejects hallowance hrejects rfl rfl]
          simp [Verdict.settled, Verdict.decision, hpassed, Number.toValue]

end OneAttempt

/-! ## The last attempt -/

/-- The same but for how often it was tried. -/
structure Decision.Agrees (first second : Decision) : Prop where
  pack : first.pack = second.pack
  accepted : first.accepted = second.accepted
  verdict : first.verdict = second.verdict

/-- The decision of a run is the one on the candidate that was proposed last. -/
theorem Compressor.exists_review_of_last {ε : Type} {compressor : Compressor ε} {before : Pack}
    (config : Option Policy) {request : Requested} {decision : Decision}
    (h : (compressor.run (.pack before) (config.getD {}) request).outcome = .ok decision) :
    ∃ history last gated,
      (compressor.run (.pack before) (config.getD {}) request).calls =
        none :: history.map some ∧
      (compressor history).proposal (.pack before) = .ok last ∧
      (review (.pack before) last .absent config).outcome = .ok gated ∧
      decision.Agrees gated := by
  have hnone : ∀ n ∈ (none : Option Number), n.isPositive = false := by simp
  obtain ⟨asked, hunder, hratio⟩ := Requested.exists_under_of_not_isPositive hnone config
  rw [Requested.ofNumber] at hunder
  have hjudged (after : Candidate) : judge (.pack before) after (.number asked) =
      judge (.pack before) after (.number (config.getD {}).required) :=
    judge_congr (hratio.trans (Requested.ratio_number (config.getD {}).required_isPositive).symm)
  cases hallowance : request.allowance (config.getD {}) with
  | error fault => simp [run, hallowance, Run.halt] at h
  | ok allowance =>
      cases run_ends hallowance with
      | fails _ _ _ _ _ hrun
      | faults _ _ _ _ _ _ _ hrun
      | cannotStamp _ _ _ _ _ _ _ _ _ _ hrun =>
          rw [hrun] at h
          cases h
      | accepts rejected after verdict _ _ hproposal hjudge hpassed hrun =>
          rw [Candidate.readTimes_pack] at hproposal hjudge
          rw [hrun] at h ⊢
          obtain rfl := Except.ok.inj h
          refine ⟨rejected, .pack after, verdict.decision before after, rfl, hproposal, ?_, ?_⟩
          · rw [review_pack hunder, hjudged, hjudge]
            rfl
          · constructor <;> simp [Verdict.decision, hpassed]
      | exhausts earlier last hrejects _ hrun =>
          obtain ⟨-, ⟨after, hproposal, hjudge, hfailed⟩, -⟩ := Retry.Rejects.append_iff.mp hrejects
          rw [Candidate.readTimes_pack] at hproposal hjudge
          rw [hrun] at h ⊢
          cases hraises : allowance.raises with
          | true => simp [hraises] at h
          | false =>
              simp only [hraises, Bool.false_eq_true, if_false, Except.ok.injEq] at h
              subst h
              refine ⟨earlier, after, _, rfl, hproposal,
                review_of_rejected hunder ((hjudged after).trans hjudge) hfailed, ?_⟩
              exact ⟨Candidate.readTimes_pack .., rfl, rfl⟩

/-- A review that asks for no positive ratio, and a run with one attempt, decide as a judgement with
the ratio of the policy.  A positive ratio is judged by as it stands, and a run of any length agrees
with a review of the proposal at its end. -/
theorem entry_points_agree (before after : Pack) (config : Option Policy) :
    let policy := config.getD {}
    let judged := judge (.pack before) (.pack after) (.number (.double policy.ratio))
    (∀ ratio : Option Number, (∀ n ∈ ratio, n.isPositive = false) →
      (review (.pack before) (.pack after) (.ofNumber ratio) config).outcome =
        judged.map (Verdict.decision before after)) ∧
    (∀ {ε : Type} (compressor : Compressor ε),
      (compressor []).proposal (.pack before) = .ok (.pack after) →
        (compressor.run (.pack before) policy (.ofCount (some 1))).outcome =
          match judged with
          | .error fault => .error (.fault fault)
          | .ok verdict => verdict.settled before after policy.raises) ∧
    (∀ n : Number, n.isPositive = true →
      (review (.pack before) (.pack after) (.number n) config).outcome =
        (judge (.pack before) (.pack after) (.number n)).map (Verdict.decision before after)) ∧
    ∀ {ε : Type} (compressor : Compressor ε) request decision,
      (compressor.run (.pack before) policy request).outcome = .ok decision →
        ∃ history last gated,
          (compressor.run (.pack before) policy request).calls = none :: history.map some ∧
          (compressor history).proposal (.pack before) = .ok last ∧
          (review (.pack before) last .absent config).outcome = .ok gated ∧
          decision.Agrees gated := by
  intro policy judged
  refine ⟨?_, ?_, ?_, ?_⟩
  · intro ratio hratio
    obtain ⟨asked, hunder, henforced⟩ := Requested.exists_under_of_not_isPositive hratio config
    have hsame : judge (.pack before) (.pack after) (.number asked) = judged :=
      judge_congr henforced
    rw [review_pack hunder, hsame]
  · intro ε compressor hproposal
    rw [Compressor.run_one policy hproposal, judge_required]
  · intro n hpositive
    rw [review_pack (Requested.under_of_isPositive hpositive config)]
  · intro ε compressor request decision h
    exact Compressor.exists_review_of_last config h

end FidelityGate
