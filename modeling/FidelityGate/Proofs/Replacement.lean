import FidelityGate.Proofs.Judgement
import FidelityGate.Proofs.SavingOrder

/-!
# Replacing packs

When one pack may take the place of another one.  Going from pack to pack is no way around a
threshold: what is reached in two steps may also take the place of the first pack at once, even
if the stricter of both thresholds is enforced.
-/

namespace FidelityGate

theorem Number.toValue_inj {m n : Number} : m.toValue = n.toValue ↔ m = n := by
  constructor
  · intro h
    apply Option.some.inj
    rw [← Value.number?_toValue m, h, Value.number?_toValue]
  · rintro rfl
    rfl

/-- The judgement passes, and the ratio that it enforces is `required`. -/
def Replaceable (before after : Pack) (request : Requested) (required : Number) : Prop :=
  ∃ verdict, judge (.pack before) (.pack after) request = .ok verdict ∧
    verdict.isPassed = true ∧ verdict.required = required.toValue

namespace Replaceable

section OneStep

variable {before after : Pack} {request : Requested} {required : Number}

theorem iff :
    Replaceable before after request required ↔
      request.ratio = .ok required ∧ before.entries.KeptBy after.entries ∧
        ∃ saved, saving before.rendering.length after.rendering.length = .ok saved ∧
          required.le (.double saved) = true := by
  constructor
  · rintro ⟨verdict, hjudge, hpassed, hsame⟩
    obtain ⟨enforced, saved, hratio, hsaved, rfl⟩ := judge_pack_eq_ok_iff.mp hjudge
    obtain ⟨hkept, henough⟩ := (Verdict.isPassed_ofEntries_iff ..).mp hpassed
    obtain rfl : enforced = required := Number.toValue_inj.mp hsame
    exact ⟨hratio, hkept, saved, hsaved, henough⟩
  · rintro ⟨hratio, hkept, saved, hsaved, henough⟩
    refine ⟨_, judge_pack_eq_ok_iff.mpr ⟨required, saved, hratio, hsaved, rfl⟩, ?_, rfl⟩
    exact (Verdict.isPassed_ofEntries_iff ..).mpr ⟨hkept, henough⟩

theorem iff_toOption :
    Replaceable before after request required ↔
      request.ratio.toOption = some required ∧ before.entries.KeptBy after.entries ∧
        (saving before.rendering.length after.rendering.length).toOption.any
          (fun saved ↦ required.le (.double saved)) = true := by
  simp only [iff, Option.any_eq_true, Except.toOption_eq_some_iff]

instance : Decidable (Replaceable before after request required) :=
  decidable_of_iff _ iff_toOption.symm

theorem required_isPositive (h : Replaceable before after request required) :
    required.isPositive = true :=
  Requested.ratio_isPositive (iff.mp h).1

theorem length_lt (h : Replaceable before after request required) :
    after.rendering.length < before.rendering.length := by
  obtain ⟨-, -, saved, hsaved, henough⟩ := iff.mp h
  have hpositive := Number.isPositive_of_le h.required_isPositive henough
  exact_mod_cast lt_of_saving_isPositive hsaved hpositive

/-- A lower threshold lets through whatever a higher one does. -/
theorem of_le (h : Replaceable before after request required) {n : Number}
    (hpositive : n.isPositive = true) (hle : n.le required = true) :
    Replaceable before after (.number n) n := by
  obtain ⟨-, hkept, saved, hsaved, henough⟩ := iff.mp h
  exact iff.mpr
    ⟨Requested.ratio_number hpositive, hkept, saved, hsaved, Number.le_trans hle henough⟩

end OneStep

section TwoSteps

variable {first second third : Pack} {request request' : Requested} {required required' : Number}
  (h : Replaceable first second request required)
  (h' : Replaceable second third request' required')

include h h'

theorem exists_saving_of_steps :
    ∃ saved, saving first.rendering.length third.rendering.length = .ok saved ∧
      required.le (.double saved) = true ∧ required'.le (.double saved) = true := by
  have hshorter := h.length_lt
  have hshorter' := h'.length_lt
  obtain ⟨saved, hsaved⟩ := exists_saving (Nat.le_of_lt (hshorter'.trans hshorter))
  obtain ⟨-, -, x, hx, henough⟩ := iff.mp h
  obtain ⟨-, -, y, hy, henough'⟩ := iff.mp h'
  refine ⟨saved, hsaved, Number.le_trans henough ?_, Number.le_trans henough' ?_⟩
  -- The first step ends at a longer text, and the second one begins at a shorter text.
  · apply saving_le_saving (by omega) (by omega) hx hsaved
    apply Int.mul_le_mul_of_nonneg_right <;> omega
  · apply saving_le_saving (by omega) (by omega) hy hsaved
    have hlost := Int.mul_le_mul_of_nonneg_left (Int.ofNat_le.mpr hshorter.le)
      (Int.natCast_nonneg third.rendering.length)
    rw [Int.sub_mul, Int.sub_mul, Int.mul_comm (second.rendering.length : Int)]
    omega

theorem trans : Replaceable first third (.number required) required ∧
    Replaceable first third (.number required') required' := by
  obtain ⟨saved, hsaved, henough, henough'⟩ := h.exists_saving_of_steps h'
  have hkept := (iff.mp h).2.1.trans (iff.mp h').2.1
  constructor
  · exact iff.mpr ⟨Requested.ratio_number h.required_isPositive, hkept, saved, hsaved, henough⟩
  · exact iff.mpr ⟨Requested.ratio_number h'.required_isPositive, hkept, saved, hsaved, henough'⟩

/-- What two steps reach may replace the first pack at once, under either threshold and under
every positive one that is not above both of them. -/
theorem of_two_steps :
    Replaceable first third (.number required) required ∧
      Replaceable first third (.number required') required' ∧
        ∀ n : Number, n.isPositive = true → n.le required = true ∨ n.le required' = true →
          Replaceable first third (.number n) n := by
  obtain ⟨hfirst, hsecond⟩ := h.trans h'
  refine ⟨hfirst, hsecond, fun n hpositive hle ↦ ?_⟩
  rcases hle with hle | hle
  · exact hfirst.of_le hpositive hle
  · exact hsecond.of_le hpositive hle

end TwoSteps

end Replaceable

namespace Draft

def long : Pack where
  contract := "Answer in whole sentences, and say why."
  constraints := ["keep tests"]

def short : Pack where
  contract := "Answer in whole sentences."
  constraints := [" keep tests"]

def bare : Pack where
  constraints := ["keep tests "]

def fifth : Number :=
  .double (.ofDecimal false 2 (-1))

def third : Number :=
  .double (.ofDecimal false 33 (-2))

end Draft

/-- A ratio between those of the two steps is met as well. -/
theorem Replaceable.draft_by_bare :
    (Replaceable Draft.long Draft.short (.number Draft.fifth) Draft.fifth ∧
      Replaceable Draft.short Draft.bare .absent (.double defaultRatio) ∧
      Draft.third.le Draft.fifth = false ∧ Draft.third.le (.double defaultRatio) = true) ∧
    Replaceable Draft.long Draft.bare (.number (.double defaultRatio)) (.double defaultRatio) ∧
      Replaceable Draft.long Draft.bare (.number Draft.third) Draft.third := by
  have hfirst : Replaceable Draft.long Draft.short (.number Draft.fifth) Draft.fifth := by
    decide +kernel
  have hsecond : Replaceable Draft.short Draft.bare .absent (.double defaultRatio) := by
    decide +kernel
  have hbetween : Draft.third.le (.double defaultRatio) = true := by decide +kernel
  obtain ⟨-, hdefault, hbelow⟩ := of_two_steps hfirst hsecond
  refine ⟨⟨hfirst, hsecond, by decide +kernel, hbetween⟩, hdefault, ?_⟩
  exact hbelow Draft.third (by decide +kernel) (.inr hbetween)

end FidelityGate
