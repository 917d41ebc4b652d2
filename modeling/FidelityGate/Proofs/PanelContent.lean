import FidelityGate.Panel.Layout
import FidelityGate.Proofs.Judgement
import FidelityGate.Proofs.Range

/-!
# What a panel says

A panel compares the saving with the ratio once more, and reads what was lost, whether the candidate
passed and the reasons from fields of their own.  On a verdict that comes from a judgement all of
these agree.  Such a verdict has no panel only if its ratio has no nearest double.
-/

namespace FidelityGate

/-! ## Numbers in percent -/

namespace Value

theorem format_toValue (mark : Char) (write : Binary64 → String) (n : Number) :
    format mark write n.toValue = match n.toBinary64? with
      | some x => .ok (write x)
      | none => .error .formatOverflow := by
  cases hx : n.toBinary64? with
  | none => simp [format, hx]
  | some x => simp [format, hx]

theorem toPercent_double (x : Binary64) :
    toPercent (.double x) = .ok (x.timesHundred.toFixed 1 ++ "%") := rfl

end Value

namespace Panel

/-! ## Rows -/

def kept : Piece :=
  piece .good "kept"

def lost : Piece :=
  piece .bad "lost"

theorem keptLine_constraints (isLost : Bool) :
    keptLine "constraints" isLost =
      [piece .faint "  constraints", if isLost then lost else kept] := by
  cases isLost <;> decide

theorem keptLine_todos (isLost : Bool) :
    keptLine "todos" isLost = [piece .faint "  todos      ", if isLost then lost else kept] := by
  cases isLost <;> decide

theorem keptLine_evidence (isLost : Bool) :
    keptLine "evidence" isLost = [piece .faint "  evidence   ", if isLost then lost else kept] := by
  cases isLost <;> decide

/-- The row says that something was lost if this is so, and that everything was kept if not. -/
def Tells (row : Piece) (fails : Prop) : Prop :=
  (row = lost ↔ fails) ∧ (row = kept ↔ ¬ fails)

theorem tells_ite (isLost : Bool) : Tells (if isLost then lost else kept) (isLost = true) := by
  cases isLost <;> simp [Tells, lost, kept, piece]

/-! ## The content -/

section Content

variable {verdict : Verdict} {saved : Binary64} {required : Number}

/-- The panel of a verdict with a saving and a ratio, where the ratio is shown as the double `x`. -/
def contentWith (verdict : Verdict) (saved : Binary64) (required : Number) (x : Binary64) :
    Content where
  passed := verdict.isPassed
  lines := [
    savingLine verdict (required.le (.double saved)) (saved.timesHundred.toFixed 1 ++ "%")
      (x.timesHundred.toFixed 1 ++ "%"),
    keptLine "constraints" verdict.constraintsLost.isTrue,
    keptLine "todos" verdict.todosLost.isTrue,
    keptLine "evidence" verdict.evidenceLost.isTrue,
    reasonLine verdict.reasons]

theorem isMet_eq_ok (hsaving : verdict.saving = .double saved)
    (hrequired : verdict.required = required.toValue) :
    isMet verdict = .ok (required.le (.double saved)) := by
  have hmet : (Value.double saved).atLeast required.toValue = .ok (required.le (.double saved)) :=
    Value.atLeast_toValue (.double saved) required
  rw [isMet, hsaving, hrequired, hmet]

/-- A ratio that no double is near to is the only thing that keeps a panel from being shown. -/
theorem content_eq (hsaving : verdict.saving = .double saved)
    (hrequired : verdict.required = required.toValue) :
    content verdict = match required.toBinary64? with
      | some x => .ok (contentWith verdict saved required x)
      | none => .error .formatOverflow := by
  have hfirst : verdict.saving.toPercent = .ok (saved.timesHundred.toFixed 1 ++ "%") := by
    rw [hsaving, Value.toPercent_double]
  have hsecond : verdict.required.toPercent = match required.toBinary64? with
      | some x => .ok (x.timesHundred.toFixed 1 ++ "%")
      | none => .error .formatOverflow := by
    rw [hrequired, Value.toPercent, Value.format_toValue]
  rw [content, isMet_eq_ok hsaving hrequired, hfirst, hsecond, Except.ok_bind, Except.ok_bind]
  cases required.toBinary64? with
  | none => rfl
  | some x => rfl

theorem lines_contentWith (verdict : Verdict) (saved : Binary64) (required : Number)
    (x : Binary64) :
    (contentWith verdict saved required x).lines = [
      [piece .faint "  saving:    ",
        piece (if required.le (.double saved) then .good else .bad)
          (saved.timesHundred.toFixed 1 ++ "%"),
        piece .faint (" (required " ++ (x.timesHundred.toFixed 1 ++ "%") ++ ", "),
        piece .faint (verdict.beforeLength.written ++ " -> " ++ verdict.afterLength.written ++
          " chars)")],
      [piece .faint "  constraints", if verdict.constraintsLost.isTrue then lost else kept],
      [piece .faint "  todos      ", if verdict.todosLost.isTrue then lost else kept],
      [piece .faint "  evidence   ", if verdict.evidenceLost.isTrue then lost else kept],
      reasonLine verdict.reasons] := by
  rw [contentWith, keptLine_constraints, keptLine_todos, keptLine_evidence]
  rfl

end Content

/-! ## Readings of a content -/

theorem ink_ite_eq_good_iff {met : Bool} {text : String} :
    (piece (if met then .good else .bad) text).ink = .good ↔ met = true := by
  cases met <;> simp [piece]

theorem ink_ite_eq_bad_iff {met : Bool} {text : String} :
    (piece (if met then .good else .bad) text).ink = .bad ↔ ¬ met = true := by
  cases met <;> simp [piece]

theorem ite_eq_kept_iff {isLost : Bool} :
    (if isLost then lost else kept) = kept ↔ ¬ isLost = true :=
  (tells_ite isLost).2

theorem outcome_eq_passed_iff {passed : Bool} : outcome passed = "PASSED" ↔ passed = true := by
  cases passed <;> decide

theorem outcome_eq_failed_iff {passed : Bool} : outcome passed = "FAILED" ↔ passed = false := by
  cases passed <;> decide

theorem borderCode_eq_green_iff {passed : Bool} : borderCode passed = "32" ↔ passed = true := by
  cases passed <;> decide

theorem reasonLine_ne_nil_iff {reasons : List Reason} : reasonLine reasons ≠ [] ↔ reasons ≠ [] := by
  cases reasons <;> simp [reasonLine]

theorem reasonLine_of_ne_nil {reasons : List Reason} (h : reasons ≠ []) :
    reasonLine reasons = [piece .faint "  reasons:   ",
      piece .warning (", ".intercalate (reasons.map Reason.code))] := by
  rw [reasonLine, if_neg (by simpa using h)]

end Panel

/-! ## Verdicts of judgements -/

/-- The fields of the verdict agree with one another, and with the ratio that is enforced. -/
structure Verdict.IsConsistent (verdict : Verdict) (saved : Binary64) (ratio : Number) : Prop where
  saving : verdict.saving = .double saved
  required : verdict.required = ratio.toValue
  constraintsLost : .constraintsLost ∈ verdict.reasons ↔ verdict.constraintsLost.isTrue = true
  todosLost : .todosLost ∈ verdict.reasons ↔ verdict.todosLost.isTrue = true
  evidenceLost : .evidenceLost ∈ verdict.reasons ↔ verdict.evidenceLost.isTrue = true
  savingTooSmall : .savingTooSmall ∈ verdict.reasons ↔ ¬ ratio.le (.double saved) = true
  isPassed : verdict.isPassed = true ↔ verdict.reasons = []

theorem exists_isConsistent_of_judge {before after : Candidate} {request : Requested}
    {verdict : Verdict} (h : judge before after request = .ok verdict) :
    ∃ saved ratio, request.ratio = .ok ratio ∧ verdict.IsConsistent saved ratio := by
  have hpassed := judge_isPassed_iff h
  obtain ⟨⟨required, m, n, saved⟩, hof, rfl⟩ := judge_eq_ok_iff.mp h
  exact ⟨saved, required, hof.required, rfl, rfl, Verdict.mem_reasons_conclude,
    Verdict.mem_reasons_conclude, Verdict.mem_reasons_conclude, Verdict.mem_reasons_conclude,
    hpassed⟩

theorem Verdict.IsConsistent.isPassed_iff {verdict : Verdict} {saved : Binary64} {ratio : Number}
    (h : verdict.IsConsistent saved ratio) :
    verdict.isPassed = true ↔ ratio.le (.double saved) = true ∧
      ¬ verdict.constraintsLost.isTrue = true ∧ ¬ verdict.todosLost.isTrue = true ∧
        ¬ verdict.evidenceLost.isTrue = true := by
  have hmet : ratio.le (.double saved) = true ↔ .savingTooSmall ∉ verdict.reasons := by
    rw [h.savingTooSmall, not_not]
  rw [h.isPassed, hmet, ← h.constraintsLost, ← h.todosLost, ← h.evidenceLost,
    List.eq_nil_iff_forall_not_mem]
  constructor
  · intro hnone
    exact ⟨hnone _, hnone _, hnone _, hnone _⟩
  · rintro ⟨hsaving, hconstraints, htodos, hevidence⟩ reason
    cases reason <;> assumption

/-- What a panel shows of a verdict agrees with its reasons: the heading and the frame, the ink of
the saving, a row for each kind of identifier and the row of the reasons. -/
theorem panel_agrees_with_verdict {before after : Pack} {request : Requested} {verdict : Verdict}
    (hrange : ¬ request.IsOversized)
    (h : judge (.pack before) (.pack after) request = .ok verdict) :
    ∃ content ratio required lengths constraints todos evidence reasons,
      Panel.content verdict = .ok content ∧
      content.lines = [
        [Panel.piece .faint "  saving:    ", ratio, required, lengths],
        [Panel.piece .faint "  constraints", constraints],
        [Panel.piece .faint "  todos      ", todos],
        [Panel.piece .faint "  evidence   ", evidence],
        reasons] ∧
      (Panel.outcome content.passed = "PASSED" ↔ ratio.ink = .good ∧
        constraints = Panel.kept ∧ todos = Panel.kept ∧ evidence = Panel.kept) ∧
      (Panel.borderCode content.passed = "32" ↔ ratio.ink = .good ∧
        constraints = Panel.kept ∧ todos = Panel.kept ∧ evidence = Panel.kept) ∧
      Panel.Tells constraints (.constraintsLost ∈ verdict.reasons) ∧
      Panel.Tells todos (.todosLost ∈ verdict.reasons) ∧
      Panel.Tells evidence (.evidenceLost ∈ verdict.reasons) ∧
      (ratio.ink = .bad ↔ .savingTooSmall ∈ verdict.reasons) ∧
      (ratio.ink = .good ↔ .savingTooSmall ∉ verdict.reasons) ∧
      (reasons ≠ [] ↔ Panel.outcome content.passed = "FAILED") ∧
      (reasons ≠ [] → reasons = [Panel.piece .faint "  reasons:   ",
        Panel.piece .warning (", ".intercalate (verdict.reasons.map Reason.code))]) := by
  obtain ⟨saved, enforced, hratio, hverdict⟩ := exists_isConsistent_of_judge h
  obtain ⟨x, hx⟩ : ∃ x, enforced.toBinary64? = some x := by
    rw [← Option.ne_none_iff_exists']
    exact fun hnone ↦ hrange ((Requested.isOversized_iff hratio).mpr hnone)
  have hcontent := Panel.content_eq hverdict.saving hverdict.required
  rw [hx] at hcontent
  refine ⟨_, _, _, _, _, _, _, _, hcontent, Panel.lines_contentWith .., ?_, ?_, ?_, ?_, ?_, ?_, ?_,
    ?_, Panel.reasonLine_of_ne_nil ∘ Panel.reasonLine_ne_nil_iff.mp⟩
  · rw [Panel.outcome_eq_passed_iff, Panel.ink_ite_eq_good_iff, Panel.ite_eq_kept_iff,
      Panel.ite_eq_kept_iff, Panel.ite_eq_kept_iff]
    exact hverdict.isPassed_iff
  · rw [Panel.borderCode_eq_green_iff, Panel.ink_ite_eq_good_iff, Panel.ite_eq_kept_iff,
      Panel.ite_eq_kept_iff, Panel.ite_eq_kept_iff]
    exact hverdict.isPassed_iff
  · rw [hverdict.constraintsLost]
    exact Panel.tells_ite _
  · rw [hverdict.todosLost]
    exact Panel.tells_ite _
  · rw [hverdict.evidenceLost]
    exact Panel.tells_ite _
  · rw [Panel.ink_ite_eq_bad_iff, hverdict.savingTooSmall]
  · rw [Panel.ink_ite_eq_good_iff, hverdict.savingTooSmall, not_not]
  · rw [Panel.reasonLine_ne_nil_iff, Panel.outcome_eq_failed_iff, ne_eq, ← hverdict.isPassed,
      Bool.not_eq_true]
    rfl

/-- A candidate that is empty saves all there is, as the ratio asks, and loses the constraint. -/
theorem panel_of_lost_constraint :
    ¬ (Requested.number (.int 1)).IsOversized ∧
    ∃ verdict content,
      judge (.pack { constraints := ["keep tests"] }) (.pack {}) (.number (.int 1)) =
        .ok verdict ∧
      verdict.reasons = [.constraintsLost] ∧ Panel.content verdict = .ok content ∧
      content.lines[1]? = some [Panel.piece .faint "  constraints", Panel.lost] := by
  have hrange : ¬ (Requested.number (.int 1)).IsOversized := by
    rintro ⟨n, hn, hlarge⟩
    obtain rfl := Number.int.inj (Requested.number.inj hn)
    have hone : 1 < Binary64.integerBound :=
      (Nat.one_lt_two_pow (by decide)).trans_le Binary64.le_integerBound
    omega
  obtain ⟨verdict, hjudge, hreasons⟩ := Except.exists_of_toOption_map
    (x := judge (.pack { constraints := ["keep tests"] }) (.pack {}) (.number (.int 1)))
    (f := Verdict.reasons) (b := [.constraintsLost]) (by decide +kernel)
  obtain ⟨content, _, _, _, constraints, _, _, _, hcontent, hlines, -, -, hconstraints, -⟩ :=
    panel_agrees_with_verdict hrange hjudge
  have hlost : constraints = Panel.lost := hconstraints.1.mpr (by simp [hreasons])
  refine ⟨hrange, verdict, content, hjudge, hreasons, hcontent, ?_⟩
  rw [hlines, hlost]
  rfl

end FidelityGate
