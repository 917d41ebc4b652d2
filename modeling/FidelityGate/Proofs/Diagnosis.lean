import FidelityGate.Proofs.Run
import FidelityGate.Verdict.Fields
import Mathlib.Data.List.Forall2

/-!
# Diagnoses

A diagnosis is a text, and so is each code in the plain fields of a verdict.  Neither loses
anything: the reasons can be read back from the commas of the one, and the whole verdict from the
other.  So a caller who has only the history of a run knows the reasons of every rejected attempt.
-/

namespace FidelityGate

namespace Reason

/-- The reasons that a diagnosis lists, if all of its pieces are codes. -/
def ofDiagnosis? (diagnosis : String) : Option (List Reason) :=
  if diagnosis = "" then some []
  else ((diagnosis.toList.splitOn ',').map String.ofList).mapM ofCode?

theorem comma_not_mem_code (reason : Reason) : ',' ∉ reason.code.toList := by
  cases reason <;> decide

theorem mapM_ofCode?_code (reasons : List Reason) :
    (reasons.map code).mapM ofCode? = some reasons := by
  induction reasons with
  | nil => rfl
  | cons reason rest ih => simp [List.mapM_cons, ofCode?_code, ih]

end Reason

namespace Verdict

theorem splitOn_reason {verdict : Verdict} (h : verdict.reasons ≠ []) :
    verdict.reason.toList.splitOn ',' = verdict.reasons.map (·.code.toList) := by
  have hcode : ∀ l ∈ verdict.reasons.map (·.code.toList), ',' ∉ l := by
    intro l hl
    obtain ⟨reason, -, rfl⟩ := List.mem_map.mp hl
    exact reason.comma_not_mem_code
  rw [reason, String.toList_intercalate, List.map_map]
  exact List.splitOn_intercalate ',' hcode (by simpa using h)

theorem ofDiagnosis?_reason (verdict : Verdict) :
    Reason.ofDiagnosis? verdict.reason = some verdict.reasons := by
  by_cases hnone : verdict.reasons = []
  · rw [Reason.ofDiagnosis?, if_pos (verdict.reason_eq_empty_iff.mpr hnone), hnone]
  · have hreason : verdict.reason ≠ "" := mt verdict.reason_eq_empty_iff.mp hnone
    rw [Reason.ofDiagnosis?, if_neg hreason, splitOn_reason hnone, List.map_map]
    simpa [Function.comp_def] using Reason.mapM_ofCode?_code verdict.reasons

theorem reason_inj {verdict other : Verdict} :
    verdict.reason = other.reason ↔ verdict.reasons = other.reasons := by
  constructor
  · intro h
    have hread := other.ofDiagnosis?_reason
    rw [← h, ofDiagnosis?_reason] at hread
    exact Option.some.inj hread
  · intro h
    rw [reason, reason, h]

theorem readReasons_codes (reasons : List Reason) :
    readReasons (reasons.map fun reason ↦ .text reason.code) = .ok reasons := by
  induction reasons with
  | nil => rfl
  | cons reason rest ih =>
      have hfirst : readReason (.text reason.code) = .ok reason := by
        simp [readReason, Reason.ofCode?_code]
      rw [List.map_cons, readReasons, hfirst, ih]
      rfl

theorem ofFields_fields (verdict : Verdict) : ofFields verdict.fields = .ok verdict := by
  have hnames : checkNames verdict.fields = .ok () := rfl
  have hreasons : reasonsOf ((Value.lookup? "reason_codes" verdict.fields).getD (.list [])) =
      .ok verdict.reasons := readReasons_codes verdict.reasons
  rw [ofFields, hreasons, hnames]
  rfl

end Verdict

/-- The diagnosis tells why the attempt was rejected that came to the verdict. -/
structure Verdict.Explained (diagnosis : String) (verdict : Verdict) : Prop where
  reasons : Reason.ofDiagnosis? diagnosis = some verdict.reasons
  nonempty : verdict.reasons ≠ []
  ordered : verdict.reasons.Sublist Reason.all

theorem Retry.Rejects.explained {ε : Type} {compressor : Compressor ε} {ratio : Number}
    {before : Candidate} {rejected : List Verdict}
    (h : Rejects compressor ratio before [] rejected) :
    List.Forall₂ Verdict.Explained (rejected.map Verdict.reason) rejected := by
  rw [List.forall₂_map_left_iff, List.forall₂_same]
  intro verdict hmem
  obtain ⟨count, after, hjudge⟩ := h.exists_judge hmem
  refine ⟨verdict.ofDiagnosis?_reason, ?_, judge_reasons_sublist hjudge⟩
  intro hnone
  have hpassed := (judge_isPassed_iff hjudge).mpr hnone
  rw [h.isPassed_eq_false hmem] at hpassed
  cases hpassed

theorem Compressor.exists_rejects_of_history {ε : Type} {compressor : Compressor ε}
    {before : Candidate} {policy : Policy} {request : Requested} {decision : Decision}
    {history : List String} (h : (compressor.run before policy request).outcome = .ok decision)
    (hhistory : decision.history = some history) :
    ∃ rejected, Retry.Rejects compressor policy.required before [] rejected ∧
      history = rejected.map Verdict.reason := by
  obtain ⟨_, rejected, -, hrejects, hend⟩ := run_eq_ok_cases h
  refine ⟨rejected, hrejects, ?_⟩
  rcases hend with ⟨after, verdict, -, -, -, rfl⟩ | ⟨earlier, last, -, rfl⟩
  · by_cases hnone : rejected = []
    · simp [hnone] at hhistory
    · simpa [hnone] using hhistory.symm
  · exact (Option.some.inj hhistory).symm

/-- The reasons of a verdict can be read back from its diagnosis, and the verdict itself from its
fields.  The history of a run explains each of its rejected attempts. -/
theorem diagnoses_lose_nothing :
    (∀ verdict : Verdict,
      Reason.ofDiagnosis? verdict.reason = some verdict.reasons ∧
      (verdict.reason = "" ↔ verdict.reasons = []) ∧
      (∀ other : Verdict, verdict.reason = other.reason ↔ verdict.reasons = other.reasons) ∧
      Verdict.ofFields verdict.fields = .ok verdict) ∧
    ∀ {ε : Type} (compressor : Compressor ε) before policy request decision history,
      (compressor.run before policy request).outcome = .ok decision →
      decision.history = some history →
        ∃ rejected, Retry.Rejects compressor policy.required before [] rejected ∧
          List.Forall₂ Verdict.Explained history rejected := by
  constructor
  · intro verdict
    exact ⟨verdict.ofDiagnosis?_reason, verdict.reason_eq_empty_iff, fun _ ↦ Verdict.reason_inj,
      verdict.ofFields_fields⟩
  · intro ε compressor before policy request decision history hrun hhistory
    obtain ⟨rejected, hrejects, rfl⟩ := Compressor.exists_rejects_of_history hrun hhistory
    exact ⟨rejected, hrejects, hrejects.explained⟩

/-- The only attempt replaces a constraint by another one of the same length. -/
theorem diagnoses_of_replaced_constraint :
    ∃ decision verdict,
      (Compressor.run (fun _ ↦ .offers (.pack { constraints := ["drop tests"] }) :
        Compressor Empty) (.pack { constraints := ["keep tests"] }) {}
          (.ofCount (some 1))).outcome = .ok decision ∧
      decision.history = some ["constraints_lost,saving_below_threshold"] ∧
      Verdict.Explained "constraints_lost,saving_below_threshold" verdict ∧
      verdict.reasons = [.constraintsLost, .savingTooSmall] := by
  have hrun : (Compressor.run (fun _ ↦ .offers (.pack { constraints := ["drop tests"] }) :
      Compressor Empty) (.pack { constraints := ["keep tests"] }) {}
        (.ofCount (some 1))).outcome.toOption.bind (·.history) =
          some ["constraints_lost,saving_below_threshold"] := by
    decide +kernel
  obtain ⟨decision, hdecision, hhistory⟩ := Option.bind_eq_some_iff.mp hrun
  rw [Except.toOption_eq_some_iff] at hdecision
  obtain ⟨_, -, hexplained⟩ := diagnoses_lose_nothing.2 _ _ _ _ _ _ hdecision hhistory
  obtain ⟨verdict, _, hfirst, -, -⟩ := List.forall₂_cons_left_iff.mp hexplained
  have hread : Reason.ofDiagnosis? "constraints_lost,saving_below_threshold" =
      some [.constraintsLost, .savingTooSmall] := by
    decide +kernel
  refine ⟨decision, verdict, hdecision, hhistory, hfirst, ?_⟩
  exact Option.some.inj (hfirst.reasons.symm.trans hread)

end FidelityGate
