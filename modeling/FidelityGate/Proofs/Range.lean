import FidelityGate.Proofs.Nearest
import FidelityGate.Proofs.SavingOrder

/-!
# The range of doubles

Integers of less than `2 ^ 1024 - 2 ^ 970` in magnitude have a nearest double, and no others.  Of
the ratios that may be enforced, all have one but the integers from that bound on.
-/

namespace FidelityGate

namespace Binary64

/-- The least magnitude that is rounded beyond the greatest double, from the middle between that
double and the next power of two. -/
def integerBound : Nat :=
  2 ^ 1024 - 2 ^ 970

theorem le_integerBound : 2 ^ 1023 ≤ integerBound := by
  have hdouble : 2 ^ 1024 = 2 ^ 1023 + 2 ^ 1023 := by rw [pow_succ, mul_two]
  have hgap : 2 ^ 970 ≤ 2 ^ 1023 := pow_le_pow_right₀ (by decide) (by decide)
  rw [integerBound]
  omega

theorem integerBound_le : integerBound ≤ 2 ^ 1024 := by
  rw [integerBound]
  omega

theorem integerBound_pos : 0 < integerBound :=
  lt_of_lt_of_le (by positivity) le_integerBound

/-- The bound is rounded beyond the finite ranks, and the integer below it is not. -/
theorem rankOfQuotient_integerBound :
    rankBound ≤ rankOfQuotient (integerBound * unity) 1 ∧
      rankOfQuotient ((integerBound - 1) * unity) 1 < rankBound := by
  decide +kernel

theorem ofInt_isFinite_iff {n : Int} : (ofInt n).isFinite = true ↔ n.natAbs < integerBound := by
  constructor
  · intro hfinite
    by_contra hlarge
    have hrank : rankOfQuotient (integerBound * unity) 1 ≤ rankOfQuotient (n.natAbs * unity) 1 := by
      apply rankOfQuotient_mul_unity_le Nat.one_pos Nat.one_pos
      omega
    have hbeyond : ¬ rankOfQuotient (n.natAbs * unity) 1 < rankBound :=
      Nat.not_lt.mpr (rankOfQuotient_integerBound.1.trans hrank)
    rw [ofInt, nearest, ofRank, dif_neg hbeyond] at hfinite
    cases hfinite
  · intro hsmall
    apply ofRatio_isFinite_of_le Nat.one_pos rankOfQuotient_integerBound.2
    omega

end Binary64

theorem Number.isPositive_int_iff {n : Int} : (int n).isPositive = true ↔ 0 < n := by
  have hunity : (0 : Int) < Binary64.unity := Int.natCast_pos.mpr Binary64.unity_pos
  rw [isPositive_iff]
  simp only [position?, Option.some.injEq, exists_eq_left', Position.lt, Position.le,
    Bool.not_eq_true', decide_eq_false_iff_not, Int.not_le]
  constructor
  · intro h
    exact Int.pos_of_mul_pos_left h hunity
  · intro h
    exact Int.mul_pos h hunity

theorem Number.toBinary64?_int_eq_none_iff {n : Int} :
    (int n).toBinary64? = none ↔ Binary64.integerBound ≤ n.natAbs := by
  rw [← Nat.not_lt, ← Binary64.ofInt_isFinite_iff]
  simp [toBinary64?]

/-- The ratio that is asked for is an integer beyond the range of doubles. -/
def Requested.IsOversized (request : Requested) : Prop :=
  ∃ n : Int, request = .number (.int n) ∧ (Binary64.integerBound : Int) ≤ n

theorem Number.isOversized_iff (n : Number) :
    (Requested.number n).IsOversized ↔ n.orDefault.toBinary64? = none := by
  have hdefault : (double defaultRatio).toBinary64? ≠ none := by rintro ⟨⟩
  constructor
  · rintro ⟨k, hk, hlarge⟩
    obtain rfl := Requested.number.inj hk
    have hpositive : (int k).isPositive = true := by
      rw [isPositive_int_iff]
      exact (Int.natCast_pos.mpr Binary64.integerBound_pos).trans_le hlarge
    rw [orDefault, if_pos hpositive, toBinary64?_int_eq_none_iff]
    omega
  · intro hnone
    by_cases hpositive : n.isPositive = true
    · rw [orDefault, if_pos hpositive] at hnone
      cases n with
      | bool b => cases hnone
      | double x => cases hnone
      | int k =>
          rw [isPositive_int_iff] at hpositive
          rw [toBinary64?_int_eq_none_iff] at hnone
          exact ⟨k, rfl, by omega⟩
    · rw [orDefault, if_neg hpositive] at hnone
      exact absurd hnone hdefault

theorem Requested.isOversized_iff {request : Requested} {required : Number}
    (h : request.ratio = .ok required) :
    request.IsOversized ↔ required.toBinary64? = none := by
  cases request with
  | absent =>
      obtain rfl := Except.ok.inj h
      constructor
      · rintro ⟨n, ⟨⟩, -⟩
      · rintro ⟨⟩
  | number n =>
      obtain rfl := Except.ok.inj h
      exact n.isOversized_iff
  | other kind => cases h

end FidelityGate
