import FidelityGate.Decision
import FidelityGate.Proofs.Enforcement
import FidelityGate.Proofs.PanelContent
import FidelityGate.Verdict.Fields

/-!
# Verdicts are reported

A judgement puts its verdict on record exactly once, and whatever ratio was asked for the verdict
has a text, a plain object and a decision with a summary.  The text of the record and the panel need
the nearest double of the ratio, so both are missing where the ratio is an integer beyond the range
of doubles.  Nothing else keeps either from being written.
-/

namespace FidelityGate

variable {verdict : Verdict} {saved : Binary64} {ratio : Number}

theorem Event.ratioText?_toValue (n : Number) : ratioText? n.toValue = n.toFixed? 3 := by
  rw [ratioText?, Value.number?_toValue, Option.bind_some]

theorem Event.message?_judged_eq_none_iff (h : verdict.IsConsistent saved ratio) :
    (Event.judged verdict).message? = none ↔ ratio.toBinary64? = none := by
  have hsaving : ratioText? verdict.saving = some (saved.toFixed 3) := by
    rw [h.saving]
    exact ratioText?_toValue (.double saved)
  rw [message?, hsaving, h.required, ratioText?_toValue, Number.toFixed?]
  cases ratio.toBinary64? <;> simp

theorem Panel.rowsOf_eq (h : verdict.IsConsistent saved ratio) (screen : Screen) :
    rowsOf screen verdict = match ratio.toBinary64? with
      | some x => .ok (rows screen (contentWith verdict saved ratio x))
      | none => .error .formatOverflow := by
  rw [rowsOf, content_eq h.saving h.required]
  cases ratio.toBinary64? <;> rfl

theorem Verdict.text_eq (h : verdict.IsConsistent saved ratio) :
    verdict.text = if verdict.reasons = [] then "passed" else "failed: " ++ verdict.reason := by
  rw [text]
  simp only [h.isPassed]

/-- The plain object of a verdict, with truth values, numbers and texts as its fields. -/
def Verdict.HasPlainObject (verdict : Verdict) : Prop :=
  ∃ (passed constraintsLost todosLost evidenceLost : Bool) (saved : Binary64) (ratio : Number)
    (m n : Nat), verdict.toValue = .object [
      ("passed", .bool passed),
      ("saving_ratio", .double saved),
      ("required_saving_ratio", ratio.toValue),
      ("missing_constraints", .bool constraintsLost),
      ("missing_pending_todos", .bool todosLost),
      ("missing_evidence_refs", .bool evidenceLost),
      ("reason_codes", .list (verdict.reasons.map fun reason ↦ .text reason.code)),
      ("before_length", .int m),
      ("after_length", .int n)]

theorem hasPlainObject_of_judge {before after : Candidate} {request : Requested}
    (h : judge before after request = .ok verdict) : verdict.HasPlainObject := by
  obtain ⟨findings, -, rfl⟩ := judge_eq_ok_iff.mp h
  exact ⟨_, _, _, _, findings.saved, findings.required, findings.beforeLength,
    findings.afterLength, rfl⟩

theorem Decision.exists_summary {decision : Decision}
    (h : decision.verdict.IsConsistent saved ratio) : ∃ s, decision.summary = .ok s := by
  have hsaving : decision.verdict.saving.toFixed 3 = .ok (saved.toFixed 3) := by
    rw [h.saving]
    rfl
  exact ⟨_, by rw [summary, hsaving, Except.map]⟩

/-- Two packs are always judged if the candidate is not excessively long, and the verdict on them is
put on record, written and summarised.  An integer beyond the range of doubles as the ratio leaves
the record without its text and the panel with a fault, and nothing else does. -/
theorem verdicts_are_reported (before after : Pack) (request : Requested) :
    (∀ ratio, request.ratio = .ok ratio → after.rendering.length < 2 ^ 63 →
      ∃ verdict, judge (.pack before) (.pack after) request = .ok verdict) ∧
    ∀ verdict, judge (.pack before) (.pack after) request = .ok verdict →
      inspect (.pack before) (.pack after) request = ⟨.ok verdict, [.judged verdict]⟩ ∧
      (Event.judged verdict).record.level = .debug ∧
      (Event.judged verdict).record.recorder = "contextgate.verifier" ∧
      ((Event.judged verdict).record.text? = none ↔ request.IsOversized) ∧
      verdict.text =
        (if verdict.reasons = [] then "passed" else "failed: " ++ verdict.reason) ∧
      verdict.HasPlainObject ∧
      (∀ decision : Decision, decision.verdict = verdict → ∃ s, decision.summary = .ok s) ∧
      ∀ screen,
        (¬ request.IsOversized → ∃ rows, Panel.rowsOf screen verdict = .ok rows) ∧
        (request.IsOversized → Panel.rowsOf screen verdict = .error .formatOverflow) := by
  constructor
  · intro ratio hratio hlength
    exact exists_judge_of_saving (Candidate.renders_pack before) (Candidate.renders_pack after)
      (Candidate.isReadable_pack before) (Candidate.isReadable_pack after) hratio
      (exists_saving_of_lt _ hlength)
  · intro verdict h
    obtain ⟨saved, ratio, hratio, hverdict⟩ := exists_isConsistent_of_judge h
    have hoversized := Requested.isOversized_iff hratio
    refine ⟨by rw [inspect, h], rfl, rfl, ?_, Verdict.text_eq hverdict, hasPlainObject_of_judge h,
      ?_, fun screen ↦ ⟨?_, ?_⟩⟩
    · rw [hoversized]
      exact Event.message?_judged_eq_none_iff hverdict
    · rintro decision rfl
      exact Decision.exists_summary hverdict
    · intro hrange
      obtain ⟨x, hx⟩ := Option.ne_none_iff_exists'.mp (hoversized.not.mp hrange)
      exact ⟨_, by rw [Panel.rowsOf_eq hverdict, hx]⟩
    · intro hlarge
      rw [Panel.rowsOf_eq hverdict, hoversized.mp hlarge]

theorem verdicts_are_reported_at_infinity :
    ∃ verdict text rows,
      judge (.pack { constraints := ["keep tests"] }) (.pack {})
        (.number (.double (.infinite false))) = .ok verdict ∧
      (Event.judged verdict).record.text? = some text ∧
      Panel.rowsOf Panel.terminal verdict = .ok rows ∧
      verdict.text = "failed: constraints_lost,saving_below_threshold" := by
  have hrange : ¬ (Requested.number (.double (.infinite false))).IsOversized := by
    rintro ⟨n, hn, -⟩
    cases Requested.number.inj hn
  obtain ⟨verdict, hjudge, hreasons⟩ := Except.exists_of_toOption_map
    (x := judge (.pack { constraints := ["keep tests"] }) (.pack {})
      (.number (.double (.infinite false))))
    (f := Verdict.reasons) (b := [.constraintsLost, .savingTooSmall]) (by decide +kernel)
  obtain ⟨-, -, -, hrecord, htext, -, -, hpanel⟩ :=
    (verdicts_are_reported _ _ _).2 verdict hjudge
  obtain ⟨text, hsome⟩ := Option.ne_none_iff_exists'.mp (hrecord.not.mpr hrange)
  obtain ⟨rows, hrows⟩ := (hpanel Panel.terminal).1 hrange
  refine ⟨verdict, text, rows, hjudge, hsome, hrows, ?_⟩
  rw [htext, Verdict.reason, hreasons]
  rfl

/-- A ratio of `10 ^ 400` is judged, but neither put on record nor shown. -/
theorem oversized_ratio_is_not_reported :
    ∃ verdict, judge (.pack {}) (.pack {}) (.number (.int (10 ^ 400))) = .ok verdict ∧
      (Event.judged verdict).record.text? = none ∧
      ∀ screen, Panel.rowsOf screen verdict = .error .formatOverflow := by
  have hratio : (Requested.number (.int (10 ^ 400))).ratio = .ok (.int (10 ^ 400)) :=
    Requested.ratio_number (Number.isPositive_int_iff.mpr (by positivity))
  have hbeyond : (Number.int (10 ^ 400)).toBinary64? = none := by
    have hten : (10 : Int).natAbs = 10 := rfl
    rw [Number.toBinary64?_int_eq_none_iff, Int.natAbs_pow, hten]
    calc Binary64.integerBound ≤ 2 ^ 1024 := Binary64.integerBound_le
      _ ≤ 2 ^ (3 * 400) := pow_le_pow_right₀ (by decide) (by decide)
      _ = (2 ^ 3) ^ 400 := pow_mul 2 3 400
      _ ≤ 10 ^ 400 := pow_le_pow_left₀ (by decide) (by decide) 400
  obtain ⟨verdict, hjudge, -⟩ := judge_self {} hratio
  obtain ⟨saved, ratio, hsame, hverdict⟩ := exists_isConsistent_of_judge hjudge
  obtain rfl := Except.ok.inj (hratio.symm.trans hsame)
  refine ⟨verdict, hjudge, (Event.message?_judged_eq_none_iff hverdict).mpr hbeyond, ?_⟩
  intro screen
  rw [Panel.rowsOf_eq hverdict, hbeyond]

end FidelityGate
