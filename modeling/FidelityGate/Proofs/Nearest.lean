import FidelityGate.Proofs.SavingLaws

/-!
# How far rounding goes

A rounded quotient is off by at most half a step of its band, and a quotient that is a double is
not rounded at all.  As rounding also keeps the order, it never takes a quotient past a double.
Between zero and one the steps are so small that different quotients with one denominator below
`2 ^ 53` are rounded to different doubles.
-/

namespace FidelityGate

theorem roundHalfEven_mul (r : Nat) {den : Nat} (hden : 0 < den) :
    roundHalfEven (r * den) den = r := by
  have hrounded := roundHalfEven_isNearestEven (r * den) hden
  have hexact := IsNearestEven.of_mul r hden
  exact Nat.le_antisymm (hrounded.le hexact hden hden (Nat.le_refl _))
    (hexact.le hrounded hden hden (Nat.le_refl _))

namespace Binary64

/-! ## The error of rounding -/

theorem unitsOfRank_band {band digits : Nat} (hdigits : digits ≤ 2 ^ 53)
    (hband : band ≠ 0 → 2 ^ 52 ≤ digits) :
    unitsOfRank (band * 2 ^ 52 + digits) = digits * 2 ^ band := by
  rcases Nat.lt_or_ge digits (2 ^ 52) with hsmall | hlarge
  · obtain rfl : band = 0 := by
      by_contra hne
      exact absurd (hband hne) (Nat.not_le.mpr hsmall)
    rw [Nat.zero_mul, Nat.zero_add, unitsOfRank_of_lt hsmall, Nat.pow_zero, Nat.mul_one]
  · obtain ⟨place, rfl⟩ := Nat.exists_eq_add_of_le hlarge
    rcases Nat.lt_or_ge place (2 ^ 52) with hplace | hlast
    · have hrank : band * 2 ^ 52 + (2 ^ 52 + place) = (band + 1) * 2 ^ 52 + place := by omega
      rw [hrank, unitsOfRank_add hplace]
    · -- Rounding has carried into the next band.
      obtain rfl : place = 2 ^ 52 := by omega
      have hrank : band * 2 ^ 52 + (2 ^ 52 + 2 ^ 52) = (band + 1 + 1) * 2 ^ 52 + 0 := by omega
      rw [hrank, unitsOfRank_add (Nat.two_pow_pos 52), Nat.add_zero, Nat.pow_succ']
      omega

variable {num den : Nat}

theorem unitsOfRank_rankOfQuotient (num : Nat) (hden : 0 < den) :
    unitsOfRank (rankOfQuotient num den) =
      roundHalfEven num (den * 2 ^ doublings num den) * 2 ^ doublings num den := by
  rw [rankOfQuotient_eq]
  exact unitsOfRank_band (roundHalfEven_doublings_le num hden) (le_roundHalfEven_doublings hden)

/-- Twice the distance of a quotient from the rounded one is at most one step of its band. -/
theorem rankOfQuotient_error (num : Nat) (hden : 0 < den) :
    2 * num ≤ 2 * (unitsOfRank (rankOfQuotient num den) * den) + den * 2 ^ doublings num den ∧
      2 * (unitsOfRank (rankOfQuotient num den) * den) ≤
        2 * num + den * 2 ^ doublings num den := by
  have hscaled : 0 < den * 2 ^ doublings num den := Nat.mul_pos hden (Nat.two_pow_pos _)
  have hnearest := roundHalfEven_isNearestEven num hscaled
  have hunits : unitsOfRank (rankOfQuotient num den) * den =
      roundHalfEven num (den * 2 ^ doublings num den) * (den * 2 ^ doublings num den) := by
    rw [unitsOfRank_rankOfQuotient num hden, Nat.mul_right_comm, Nat.mul_assoc]
  rw [hunits]
  exact ⟨hnearest.le_above, hnearest.below_le⟩

/-! ## Doubles are not rounded -/

theorem exists_unitsOfRank_eq (rank : Nat) :
    ∃ band digits, digits < 2 ^ 53 ∧ unitsOfRank rank = digits * 2 ^ band := by
  rcases Nat.lt_or_ge rank (2 ^ 52) with hsmall | hlarge
  · exact ⟨0, rank, by omega, by rw [unitsOfRank_of_lt hsmall, Nat.pow_zero, Nat.mul_one]⟩
  · refine ⟨rank / 2 ^ 52 - 1, 2 ^ 52 + rank % 2 ^ 52, by omega, ?_⟩
    exact if_neg (Nat.not_lt.mpr hlarge)

theorem doublings_le_of_lt {band : Nat} (h : num / den < 2 ^ (53 + band)) :
    doublings num den ≤ band := by
  rw [doublings]
  rcases Nat.eq_zero_or_pos (num / den) with hzero | hpos
  · rw [hzero, Nat.log2_zero]
    omega
  · have hlog := (Nat.log2_lt (Nat.pos_iff_ne_zero.mp hpos)).mpr h
    omega

theorem rankOfQuotient_unitsOfRank (rank : Nat) : rankOfQuotient (unitsOfRank rank) 1 = rank := by
  apply unitsOfRank_strictMono.injective
  obtain ⟨band, digits, hdigits, hunits⟩ := exists_unitsOfRank_eq rank
  have hband : doublings (unitsOfRank rank) 1 ≤ band := by
    apply doublings_le_of_lt
    rw [Nat.div_one, hunits, Nat.pow_add]
    exact Nat.mul_lt_mul_of_pos_right hdigits (Nat.two_pow_pos band)
  -- The band of the units is no higher than that of the rank, so the units fill whole steps.
  obtain ⟨steps, hsteps⟩ : 2 ^ doublings (unitsOfRank rank) 1 ∣ unitsOfRank rank :=
    (Nat.pow_dvd_pow 2 hband).trans (Dvd.intro_left digits hunits.symm)
  rw [unitsOfRank_rankOfQuotient _ Nat.one_pos, Nat.one_mul]
  generalize 2 ^ doublings (unitsOfRank rank) 1 = step at hsteps ⊢
  rcases Nat.eq_zero_or_pos step with rfl | hstep
  · rw [hsteps, Nat.zero_mul, Nat.mul_zero]
  · rw [hsteps, Nat.mul_comm step, roundHalfEven_mul steps hstep]

theorem rankOfQuotient_mul_right (num : Nat) {factor : Nat} (hfactor : 0 < factor) :
    rankOfQuotient (num * factor) factor = rankOfQuotient num 1 := by
  apply Nat.le_antisymm
  · apply rankOfQuotient_le_rankOfQuotient hfactor Nat.one_pos
    rw [Nat.mul_one]
  · apply rankOfQuotient_le_rankOfQuotient Nat.one_pos hfactor
    rw [Nat.mul_one]

/-- The exact value of a double, taken as a quotient, is rounded to a double at its place. -/
theorem position?_ofRatio_toUnits {x : Binary64} (hx : x.isFinite = true) :
    (ofRatio x.toUnits unity).position? = x.position? := by
  rw [position?_of_isFinite hx]
  cases x with
  | nan => cases hx
  | infinite negative => cases hx
  | finite negative rank hrank =>
      have habs : (finite negative rank hrank).toUnits.natAbs = unitsOfRank rank := by
        cases negative <;> simp
      rw [ofRatio, nearest, habs, rankOfQuotient_mul_right _ unity_pos, rankOfQuotient_unitsOfRank,
        position?_ofRank, if_pos hrank]
      cases negative with
      | false =>
          have hsign : ¬ (unitsOfRank rank : Int) < 0 := Int.not_lt.mpr (Int.natCast_nonneg _)
          simp [hsign]
      | true =>
          rcases Nat.eq_zero_or_pos (unitsOfRank rank) with hzero | hpos
          · simp [hzero]
          · simp [hpos]

section Passing

variable {x : Binary64} {a : Int} {b : Nat} (hx : x.isFinite = true) (hb : 0 < b)

include hx hb

/-- Rounding takes no quotient down past a double. -/
theorem le_ofRatio (h : x.toUnits * b ≤ a * unity) :
    (Number.double x).le (.double (ofRatio a b)) = true := by
  have hrounded := ofRatio_le_ofRatio unity_pos hb h
  rwa [Number.le_congr_left (position?_ofRatio_toUnits hx)] at hrounded

/-- Rounding takes no quotient up past a double. -/
theorem ofRatio_le (h : a * unity ≤ x.toUnits * b) :
    (Number.double (ofRatio a b)).le (.double x) = true := by
  have hrounded := ofRatio_le_ofRatio hb unity_pos h
  rwa [Number.le_congr_right (position?_ofRatio_toUnits hx)] at hrounded

end Passing

/-! ## Between zero and one -/

/-- The distance of neighbouring doubles just below one, in units. -/
def gapBelowOne : Nat :=
  Nat.pow 2 1021

theorem gapBelowOne_pos : 0 < gapBelowOne := by
  decide +kernel

theorem unity_eq : unity = 2 ^ 53 * gapBelowOne := by
  decide +kernel

theorem two_pow_doublings_le {a b : Nat} (h : a < b) :
    2 ^ doublings (a * unity) b ≤ gapBelowOne := by
  have hquotient : a * unity / b < unity :=
    Nat.div_lt_of_lt_mul (Nat.mul_lt_mul_of_pos_right h unity_pos)
  have hunity : unity = 2 ^ (53 + 1021) := by decide +kernel
  have hdoublings := doublings_le_of_lt (hquotient.trans_eq hunity)
  have hgap : 2 ^ 1021 = gapBelowOne := by decide +kernel
  exact (pow_le_pow_right₀ one_le_two hdoublings).trans_eq hgap

theorem unitsOfRank_one {b : Nat} (hb : 0 < b) :
    unitsOfRank (rankOfQuotient (b * unity) b) = unity := by
  have hone : unitsOfRank (1023 * 2 ^ 52) = unity := by decide +kernel
  rw [Nat.mul_comm, rankOfQuotient_mul_right _ hb, ← hone, rankOfQuotient_unitsOfRank]

/-- A fraction up to one is rounded by no more than half of the gap below one. -/
theorem rankOfQuotient_error_of_le {a b : Nat} (hb : 0 < b) (h : a ≤ b) :
    2 * (a * unity) ≤ 2 * (unitsOfRank (rankOfQuotient (a * unity) b) * b) + b * gapBelowOne ∧
      2 * (unitsOfRank (rankOfQuotient (a * unity) b) * b) ≤
        2 * (a * unity) + b * gapBelowOne := by
  rcases Nat.eq_or_lt_of_le h with rfl | hlt
  · -- One is a double itself, but the gap above it is twice as wide.
    rw [unitsOfRank_one hb, Nat.mul_comm unity]
    exact ⟨Nat.le_add_right _ _, Nat.le_add_right _ _⟩
  · obtain ⟨habove, hbelow⟩ := rankOfQuotient_error (a * unity) hb
    have hgap := Nat.mul_le_mul_left b (two_pow_doublings_le hlt)
    omega

/-- With one denominator below `2 ^ 53`, different fractions up to one stay different. -/
theorem unitsOfRank_lt_unitsOfRank {a a' b : Nat} (hb : b < 2 ^ 53) (hlt : a' < a) (hle : a ≤ b) :
    unitsOfRank (rankOfQuotient (a' * unity) b) < unitsOfRank (rankOfQuotient (a * unity) b) := by
  by_contra hnot
  have hpos : 0 < b := by omega
  obtain ⟨habove, -⟩ := rankOfQuotient_error_of_le hpos hle
  obtain ⟨-, hbelow⟩ := rankOfQuotient_error_of_le hpos (hlt.le.trans hle)
  have hsame := Nat.mul_le_mul_right b (Nat.not_lt.mp hnot)
  have hnext : a' * unity + unity ≤ a * unity := by
    rw [← Nat.succ_mul]
    exact Nat.mul_le_mul_right unity hlt
  -- Both errors together do not make up for one part of the denominator.
  have hgap : b * gapBelowOne < unity := by
    rw [unity_eq]
    exact Nat.mul_lt_mul_of_pos_right hb gapBelowOne_pos
  omega

end Binary64

end FidelityGate
