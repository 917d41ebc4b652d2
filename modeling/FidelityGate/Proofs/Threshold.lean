import FidelityGate.Policy
import FidelityGate.Saving
import Mathlib.Tactic.Common

/-!
# Thresholds

Whatever ratio is asked for, the one that is enforced is positive.  A saving that meets it is
therefore positive too, and rounding gives a positive saving only to a text that got shorter.
-/

namespace FidelityGate

namespace Position

theorem le_trans {p q r : Position} (hpq : p.le q = true) (hqr : q.le r = true) :
    p.le r = true := by
  cases p <;> cases q <;> cases r <;> simp_all [le]
  omega

theorem lt_of_lt_of_le {p q r : Position} (hpq : p.lt q = true) (hqr : q.le r = true) :
    p.lt r = true := by
  by_contra hrp
  have hrp' : r.le p = true := by simpa [lt] using hrp
  have hqp : q.le p = true := le_trans hqr hrp'
  simp [lt, hqp] at hpq

end Position

namespace Number

@[simp] theorem position?_int_zero : (int 0).position? = some (.units 0) := by
  rw [position?, Int.zero_mul]

theorem isPositive_iff {a : Number} :
    a.isPositive = true ↔ ∃ p, a.position? = some p ∧ (Position.units 0).lt p = true := by
  cases ha : a.position? with
  | none => simp [isPositive, lt, ha]
  | some p => simp [isPositive, lt, ha]

theorem isPositive_of_le {a b : Number} (ha : a.isPositive = true) (hab : a.le b = true) :
    b.isPositive = true := by
  obtain ⟨p, hp, hpos⟩ := isPositive_iff.mp ha
  cases hq : b.position? with
  | none => simp [le, hp, hq] at hab
  | some q =>
      have hpq : p.le q = true := by simpa [le, hp, hq] using hab
      exact isPositive_iff.mpr ⟨q, hq, Position.lt_of_lt_of_le hpos hpq⟩

/-- A finite double is positive if it is so many units above zero. -/
theorem isPositive_finite {negative : Bool} {rank : Nat} {hrank : rank < Binary64.rankBound} :
    (double (.finite negative rank hrank)).isPositive = true ↔
      0 < (Binary64.finite negative rank hrank).toUnits := by
  rw [isPositive_iff]
  simp [position?, Binary64.position?, Position.lt, Position.le]

/-! ## The ratio that is enforced -/

theorem defaultRatio_isPositive : (double defaultRatio).isPositive = true := by
  decide +kernel

theorem orDefault_isPositive (n : Number) : n.orDefault.isPositive = true := by
  unfold orDefault
  split
  · assumption
  · exact defaultRatio_isPositive

end Number

theorem Requested.ratio_isPositive {request : Requested} {required : Number}
    (h : request.ratio = .ok required) : required.isPositive = true := by
  cases request with
  | absent =>
      obtain rfl : Number.double defaultRatio = required := Except.ok.inj h
      exact Number.defaultRatio_isPositive
  | number n =>
      obtain rfl : n.orDefault = required := Except.ok.inj h
      exact n.orDefault_isPositive
  | other kind => cases h

theorem Requested.ratio_number {n : Number} (hpositive : n.isPositive = true) :
    (number n).ratio = .ok n := by
  simp [ratio, Number.orDefault, hpositive]

theorem Policy.required_isPositive (policy : Policy) : policy.required.isPositive = true :=
  Number.orDefault_isPositive _

theorem Policy.exists_required (policy : Policy) :
    ∃ x, policy.required = .double x ∧ (policy.ratio.isFinite = true → x.isFinite = true) := by
  by_cases h : (Number.double policy.ratio).isPositive = true
  · exact ⟨policy.ratio, by rw [required, Number.orDefault, if_pos h], id⟩
  · refine ⟨defaultRatio, by rw [required, Number.orDefault, if_neg h], fun _ ↦ ?_⟩
    decide +kernel

/-! ## The sign of a saving -/

namespace Binary64

theorem rankOfQuotient_zero (den : Nat) : rankOfQuotient 0 den = 0 := by
  simp [rankOfQuotient, roundHalfEven]

theorem ofRank_negative_not_isPositive (rank : Nat) :
    (Number.double (ofRank true rank)).isPositive = false := by
  unfold ofRank
  split
  · rw [← Bool.not_eq_true, Number.isPositive_finite]
    simp [toUnits]
  · rfl

theorem ofRatio_zero (b : Nat) : ofRatio 0 b = zero := by
  rw [ofRatio, nearest, Int.natAbs_zero, Nat.zero_mul, rankOfQuotient_zero]
  rfl

/-- Rounding keeps the sign, so it makes no positive number of one that is not. -/
theorem ofRatio_not_isPositive {a : Int} (ha : a ≤ 0) (b : Nat) :
    (Number.double (ofRatio a b)).isPositive = false := by
  rcases Int.lt_or_eq_of_le ha with hneg | rfl
  · rw [ofRatio, nearest, decide_eq_true hneg]
    exact ofRank_negative_not_isPositive _
  · rw [ofRatio_zero]
    decide +kernel

end Binary64

/-- A saving is zero where there was nothing to save, and else the rounded quotient. -/
theorem saving_eq_ok_iff {before after : Int} {saved : Binary64} :
    saving before after = .ok saved ↔
      (before ≤ 0 ∧ saved = .zero) ∨
        (0 < before ∧ saved = .ofRatio (before - after) before.toNat ∧ saved.isFinite = true) := by
  unfold saving
  by_cases hbefore : before ≤ 0
  · rw [if_pos hbefore]
    constructor
    · rintro ⟨⟩
      exact .inl ⟨hbefore, rfl⟩
    · rintro (⟨_, rfl⟩ | ⟨h, _⟩)
      · rfl
      · omega
  · have hpos : 0 < before := by omega
    rw [if_neg hbefore]
    dsimp only
    split
    next hfinite =>
      constructor
      · rintro ⟨⟩
        exact .inr ⟨hpos, rfl, hfinite⟩
      · rintro (⟨h, _⟩ | ⟨_, rfl, _⟩)
        · exact absurd h hbefore
        · rfl
    next hfinite =>
      constructor
      · rintro ⟨⟩
      · rintro (⟨h, _⟩ | ⟨_, rfl, h⟩)
        · exact absurd h hbefore
        · exact absurd h hfinite

theorem eq_quotientOverflow_of_saving {before after : Int} {fault : Fault}
    (h : saving before after = .error fault) : fault = .quotientOverflow := by
  unfold saving at h
  dsimp only at h
  split at h
  · cases h
  · split at h <;> cases h
    rfl

theorem lt_of_saving_isPositive {before after : Int} {saved : Binary64}
    (h : saving before after = .ok saved) (hpos : (Number.double saved).isPositive = true) :
    after < before := by
  by_contra hle
  rcases saving_eq_ok_iff.mp h with ⟨_, rfl⟩ | ⟨_, rfl, _⟩
  · exact absurd hpos (by decide +kernel)
  · have hdiff : before - after ≤ 0 := by omega
    simp [Binary64.ofRatio_not_isPositive hdiff] at hpos

end FidelityGate
