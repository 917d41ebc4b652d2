import FidelityGate.Decision
import FidelityGate.Proofs.Judgement

/-!
# Adopting a candidate

A candidate that passes is stamped and takes the place of the pack in use.  The stamp changes
neither what the pack renders as nor its identifiers, so all that the judgement found of the
candidate also holds of the pack that is adopted.
-/

namespace FidelityGate

@[simp] theorem Pack.entries_stamp (verdict : Verdict) (pack : Pack) :
    (pack.stamp verdict).entries = pack.entries := rfl

@[simp] theorem Pack.saving_stamp (verdict : Verdict) (pack : Pack) :
    (pack.stamp verdict).saving = verdict.saving := rfl

theorem Candidate.stamp_eq_ok_iff {candidate stamped : Candidate} {verdict : Verdict} :
    candidate.stamp verdict = .ok stamped ↔
      ∃ pack, candidate = .pack pack ∧ stamped = .pack (pack.stamp verdict) := by
  cases candidate with
  | pack p => simp [stamp, eq_comm]
  | provider p => simp [stamp]
  | value v => cases h : v.require "model_copy" <;> simp [stamp, h, Except.bind]

/-- With this decision the pack in use is replaced by a shorter one that has all its identifiers. -/
structure Decision.Adopts (before after : Pack) (decision : Decision) : Prop where
  accepted : decision.accepted = true
  pack : decision.pack = .pack after
  kept : before.entries.KeptBy after.entries
  shorter : after.rendering.length < before.rendering.length
  quality : after.quality = true
  saved : ∃ saved, saving before.rendering.length after.rendering.length = .ok saved ∧
    (Number.double saved).isPositive = true ∧ decision.verdict.saving = .double saved ∧
      after.saving = .double saved

theorem Decision.adopts_stamp {before after : Pack} {request : Requested} {verdict : Verdict}
    {decision : Decision} (hjudge : judge (.pack before) (.pack after) request = .ok verdict)
    (hpassed : verdict.isPassed = true) (haccepted : decision.accepted = true)
    (hpack : decision.pack = .pack (after.stamp verdict)) (hverdict : decision.verdict = verdict) :
    decision.Adopts before (after.stamp verdict) := by
  obtain ⟨required, saved, hratio, hsaved, rfl⟩ := judge_pack_eq_ok_iff.mp hjudge
  obtain ⟨hkept, henough⟩ := (Verdict.isPassed_ofEntries_iff ..).mp hpassed
  have hpositive := Number.isPositive_of_le (Requested.ratio_isPositive hratio) henough
  have hshorter : after.rendering.length < before.rendering.length := by
    exact_mod_cast lt_of_saving_isPositive hsaved hpositive
  refine ⟨haccepted, hpack, ?_, ?_, rfl, saved, ?_, hpositive, ?_, ?_⟩
  · simpa only [Pack.entries_stamp] using hkept
  · simpa only [Pack.rendering_stamp] using hshorter
  · simpa only [Pack.rendering_stamp] using hsaved
  · rw [hverdict, Verdict.saving_ofEntries]
  · rw [Pack.saving_stamp, Verdict.saving_ofEntries]

/-- A review with a decision adopts a pack that passes, or keeps the one in use. -/
theorem review_eq_ok_cases {before after : Candidate} {request : Requested}
    {policy : Option Policy} {decision : Decision}
    (h : (review before after request policy).outcome = .ok decision) :
    ∃ ratio verdict, request.under policy = .ok ratio ∧
      judge before after (.number ratio) = .ok verdict ∧
        ((∃ pack, after = .pack pack ∧ verdict.isPassed = true ∧
            decision = { pack := .pack (pack.stamp verdict), accepted := true, verdict }) ∨
          verdict.isPassed = false ∧ decision = { pack := before, accepted := false, verdict }) := by
  unfold review at h
  cases hratio : request.under policy with
  | error fault => simp [hratio] at h
  | ok ratio =>
      refine ⟨ratio, ?_⟩
      cases hjudge : judge before after (.number ratio) with
      | error fault => simp [hratio, inspect, hjudge] at h
      | ok verdict =>
          refine ⟨verdict, rfl, rfl, ?_⟩
          simp only [hratio, inspect, hjudge, settle] at h
          cases hpassed : verdict.isPassed with
          | false => exact .inr ⟨rfl, by simpa [hpassed] using h.symm⟩
          | true =>
              cases hstamp : after.stamp verdict with
              | error fault => simp [hpassed, hstamp] at h
              | ok stamped =>
                  obtain ⟨pack, rfl, rfl⟩ := Candidate.stamp_eq_ok_iff.mp hstamp
                  exact .inl ⟨pack, rfl, rfl, by simpa [hpassed, hstamp] using h.symm⟩

/-! ## The ratio of a review -/

/-- A ratio that may be left open. -/
def Requested.ofNumber : Option Number → Requested
  | none => .absent
  | some n => .number n

theorem Requested.exists_ratio (ratio : Option Number) :
    ∃ required, (ofNumber ratio).ratio = .ok required := by
  cases ratio with
  | none => exact ⟨_, rfl⟩
  | some n => exact ⟨_, rfl⟩

theorem Requested.exists_under (ratio : Option Number) (policy : Option Policy) :
    ∃ required, (ofNumber ratio).under policy = .ok required := by
  cases ratio with
  | none => exact ⟨_, rfl⟩
  | some n => exact ⟨_, rfl⟩

/-- Without a positive request, a review asks for what its policy requires. -/
theorem Requested.exists_under_of_not_isPositive {ratio : Option Number}
    (h : ∀ n ∈ ratio, n.isPositive = false) (policy : Option Policy) :
    ∃ asked, (ofNumber ratio).under policy = .ok asked ∧
      (number asked).ratio = .ok (policy.getD {}).required := by
  cases policy with
  | none =>
      refine ⟨.zero, ?_, rfl⟩
      cases ratio with
      | none => rfl
      | some n => simp [ofNumber, under, h n rfl]
  | some policy =>
      refine ⟨policy.required, ?_, ratio_number policy.required_isPositive⟩
      cases ratio with
      | none => rfl
      | some n => simp [ofNumber, under, h n rfl]

theorem Requested.under_of_isPositive {n : Number} (h : n.isPositive = true)
    (policy : Option Policy) : (number n).under policy = .ok n := by
  simp [under, h]

/-! ## Decisions between packs -/

/-- The decision between two packs that a verdict leads to. -/
def Verdict.decision (before after : Pack) (verdict : Verdict) : Decision where
  pack := .pack (if verdict.isPassed then after.stamp verdict else before)
  accepted := verdict.isPassed
  verdict

theorem settle_pack (before after : Pack) (verdict : Verdict) :
    settle (.pack before) (.pack after) verdict = .ok (verdict.decision before after) := by
  cases hpassed : verdict.isPassed <;> simp [settle, Verdict.decision, Candidate.stamp, hpassed]

theorem review_pack {before after : Pack} {request : Requested} {policy : Option Policy}
    {ratio : Number} (h : request.under policy = .ok ratio) :
    (review (.pack before) (.pack after) request policy).outcome =
      (judge (.pack before) (.pack after) (.number ratio)).map (Verdict.decision before after) := by
  cases hjudge : judge (.pack before) (.pack after) (.number ratio) with
  | error fault => simp [review, h, inspect, hjudge, Except.map]
  | ok verdict => simp [review, h, inspect, hjudge, settle_pack, Except.map]

theorem review_of_rejected {before after : Candidate} {request : Requested}
    {policy : Option Policy} {ratio : Number} {verdict : Verdict}
    (h : request.under policy = .ok ratio)
    (hjudge : judge before after (.number ratio) = .ok verdict)
    (hfailed : verdict.isPassed = false) :
    (review before after request policy).outcome =
      .ok { pack := before, accepted := false, verdict } := by
  simp [review, h, inspect, hjudge, settle, hfailed]

end FidelityGate
