import FidelityGate.Number
import Mathlib.Data.Nat.Log
import Mathlib.Tactic.Linarith

/-!
# Rounding keeps the order

A quotient that is not greater than another one is not rounded to a greater double.  To round is to
take the nearest integer in a band of quotients and to number the bands one after the other, so
it is enough that nearest integers keep the order within a band and that no band reaches beyond
the beginning of the next one.
-/

namespace FidelityGate

/-! ## The nearest integer -/

/-- No integer is nearer to `num / den` than `r`, and `r` is even if another one is as near. -/
structure IsNearestEven (num den r : Nat) : Prop where
  le_above : 2 * num ≤ 2 * (r * den) + den
  below_le : 2 * (r * den) ≤ 2 * num + den
  even_of_above : 2 * num = 2 * (r * den) + den → r % 2 = 0
  even_of_below : 2 * (r * den) = 2 * num + den → r % 2 = 0

namespace IsNearestEven

theorem of_mul (r : Nat) {den : Nat} (hden : 0 < den) : IsNearestEven (r * den) den r := by
  constructor <;> omega

/-- Of two quotients the smaller one has the smaller nearest integer. -/
theorem le {a b c d r s : Nat} (hr : IsNearestEven a b r) (hs : IsNearestEven c d s)
    (hb : 0 < b) (hd : 0 < d) (h : a * d ≤ c * b) : r ≤ s := by
  by_contra hlt
  have hsucc : s + 1 ≤ r := by omega
  -- Both quotients would lie in the middle of `s` and `r`, so that both would be even.
  have hmiddle : s * (b * d) + b * d ≤ r * (b * d) := by
    rw [← Nat.succ_mul]
    exact Nat.mul_le_mul_right _ hsucc
  have hupper : 2 * (r * (b * d)) ≤ 2 * (a * d) + b * d := by
    calc 2 * (r * (b * d)) = 2 * (r * b) * d := by ac_rfl
      _ ≤ (2 * a + b) * d := Nat.mul_le_mul_right d hr.below_le
      _ = 2 * (a * d) + b * d := by rw [Nat.add_mul, Nat.mul_assoc]
  have hlower : 2 * (c * b) ≤ 2 * (s * (b * d)) + b * d := by
    calc 2 * (c * b) = 2 * c * b := (Nat.mul_assoc ..).symm
      _ ≤ (2 * (s * d) + d) * b := Nat.mul_le_mul_right b hs.le_above
      _ = 2 * (s * (b * d)) + b * d := by rw [Nat.add_mul]; ac_rfl
  have hpos : 0 < b * d := Nat.mul_pos hb hd
  have hrs : r = s + 1 := by
    apply Nat.eq_of_mul_eq_mul_right hpos
    rw [Nat.add_mul, Nat.one_mul]
    omega
  have hr_even : r % 2 = 0 := by
    apply hr.even_of_below
    apply Nat.eq_of_mul_eq_mul_right hd
    calc 2 * (r * b) * d = 2 * (r * (b * d)) := by ac_rfl
      _ = 2 * (a * d) + b * d := by omega
      _ = (2 * a + b) * d := by rw [Nat.add_mul, Nat.mul_assoc]
  have hs_even : s % 2 = 0 := by
    apply hs.even_of_above
    apply Nat.eq_of_mul_eq_mul_right hb
    calc 2 * c * b = 2 * (c * b) := Nat.mul_assoc ..
      _ = 2 * (s * (b * d)) + b * d := by omega
      _ = (2 * (s * d) + d) * b := by rw [Nat.add_mul]; ac_rfl
  omega

end IsNearestEven

theorem roundHalfEven_isNearestEven (num : Nat) {den : Nat} (hden : 0 < den) :
    IsNearestEven num den (roundHalfEven num den) := by
  have hdiv : num / den * den + num % den = num := Nat.div_add_mod' num den
  have hmod : num % den < den := Nat.mod_lt num hden
  have hnext : (num / den + 1) * den = num / den * den + den := Nat.succ_mul ..
  unfold roundHalfEven
  dsimp only
  split_ifs with hbelow habove heven
  all_goals constructor <;> omega

namespace Binary64

/-! ## Bands of quotients -/

/-- How often the unit of the last place is doubled. -/
def doublings (num den : Nat) : Nat :=
  (num / den).log2 - 52

variable {num den : Nat}

theorem rankOfQuotient_eq (num den : Nat) :
    rankOfQuotient num den =
      doublings num den * 2 ^ 52 + roundHalfEven num (den * 2 ^ doublings num den) := rfl

theorem lt_doublings (num : Nat) (hden : 0 < den) :
    num < 2 ^ 53 * (den * 2 ^ doublings num den) := by
  have hlog : (num / den).log2 + 1 ≤ doublings num den + 53 := by
    unfold doublings
    omega
  have hquotient : num / den < 2 ^ (doublings num den + 53) :=
    Nat.lt_log2_self.trans_le (Nat.pow_le_pow_right Nat.two_pos hlog)
  calc num < 2 ^ (doublings num den + 53) * den := (Nat.div_lt_iff_lt_mul hden).mp hquotient
    _ = 2 ^ 53 * (den * 2 ^ doublings num den) := by rw [Nat.pow_add]; ac_rfl

theorem doublings_le (hden : 0 < den) (h : doublings num den ≠ 0) :
    2 ^ 52 * (den * 2 ^ doublings num den) ≤ num := by
  have hlog : (num / den).log2 = doublings num den + 52 := by
    unfold doublings at h ⊢
    omega
  have hquotient : 2 ^ (doublings num den + 52) ≤ num / den := by
    rw [← hlog]
    apply Nat.log2_self_le
    rintro hzero
    simp [doublings, hzero] at h
  calc 2 ^ 52 * (den * 2 ^ doublings num den) = 2 ^ (doublings num den + 52) * den := by
        rw [Nat.pow_add]; ac_rfl
    _ ≤ num := (Nat.le_div_iff_mul_le hden).mp hquotient

theorem doublings_le_doublings {a b c d : Nat} (hb : 0 < b) (hd : 0 < d) (h : a * d ≤ c * b) :
    doublings a b ≤ doublings c d := by
  have hquotient : a / b ≤ c / d := by
    rw [Nat.le_div_iff_mul_le hd]
    apply Nat.le_of_mul_le_mul_right _ hb
    calc a / b * d * b = a / b * b * d := by ac_rfl
      _ ≤ a * d := Nat.mul_le_mul_right d (Nat.div_mul_le_self a b)
      _ ≤ c * b := h
  have hlog : (a / b).log2 ≤ (c / d).log2 := by
    rw [Nat.log2_eq_log_two, Nat.log2_eq_log_two]
    exact Nat.log_mono_right hquotient
  exact Nat.sub_le_sub_right hlog 52

theorem roundHalfEven_doublings_le (num : Nat) (hden : 0 < den) :
    roundHalfEven num (den * 2 ^ doublings num den) ≤ 2 ^ 53 := by
  have hscaled : 0 < den * 2 ^ doublings num den := Nat.mul_pos hden (Nat.two_pow_pos _)
  exact (roundHalfEven_isNearestEven num hscaled).le (.of_mul (2 ^ 53) hscaled) hscaled hscaled
    (Nat.mul_le_mul_right _ (lt_doublings num hden).le)

theorem le_roundHalfEven_doublings (hden : 0 < den) (h : doublings num den ≠ 0) :
    2 ^ 52 ≤ roundHalfEven num (den * 2 ^ doublings num den) := by
  have hscaled : 0 < den * 2 ^ doublings num den := Nat.mul_pos hden (Nat.two_pow_pos _)
  exact IsNearestEven.le (.of_mul (2 ^ 52) hscaled) (roundHalfEven_isNearestEven num hscaled)
    hscaled hscaled (Nat.mul_le_mul_right _ (doublings_le hden h))

/-- A band ends where the second one after it begins. -/
theorem rankOfQuotient_le (num : Nat) (hden : 0 < den) :
    rankOfQuotient num den ≤ (doublings num den + 2) * 2 ^ 52 := by
  have hrounded := roundHalfEven_doublings_le num hden
  rw [rankOfQuotient_eq]
  omega

theorem le_rankOfQuotient (hden : 0 < den) (h : doublings num den ≠ 0) :
    (doublings num den + 1) * 2 ^ 52 ≤ rankOfQuotient num den := by
  have hrounded := le_roundHalfEven_doublings hden h
  rw [rankOfQuotient_eq]
  omega

theorem rankOfQuotient_le_rankOfQuotient {a b c d : Nat} (hb : 0 < b) (hd : 0 < d)
    (h : a * d ≤ c * b) : rankOfQuotient a b ≤ rankOfQuotient c d := by
  rcases Nat.eq_or_lt_of_le (doublings_le_doublings hb hd h) with hsame | hless
  · have hscale : 0 < 2 ^ doublings c d := Nat.two_pow_pos _
    rw [rankOfQuotient_eq, rankOfQuotient_eq, hsame]
    apply Nat.add_le_add_left
    apply (roundHalfEven_isNearestEven a (Nat.mul_pos hb hscale)).le
      (roundHalfEven_isNearestEven c (Nat.mul_pos hd hscale)) (Nat.mul_pos hb hscale)
      (Nat.mul_pos hd hscale)
    rw [← Nat.mul_assoc, ← Nat.mul_assoc]
    exact Nat.mul_le_mul_right _ h
  · calc rankOfQuotient a b ≤ (doublings a b + 2) * 2 ^ 52 := rankOfQuotient_le a hb
      _ ≤ (doublings c d + 1) * 2 ^ 52 := Nat.mul_le_mul_right _ (by omega)
      _ ≤ rankOfQuotient c d := le_rankOfQuotient hd (by omega)

/-! ## Magnitudes -/

theorem unitsOfRank_of_lt {rank : Nat} (h : rank < 2 ^ 52) : unitsOfRank rank = rank :=
  if_pos h

/-- The rank that comes `place` ranks behind the beginning of a band. -/
theorem unitsOfRank_add {band place : Nat} (h : place < 2 ^ 52) :
    unitsOfRank ((band + 1) * 2 ^ 52 + place) = (2 ^ 52 + place) * 2 ^ band := by
  have hlarge : ¬ (band + 1) * 2 ^ 52 + place < 2 ^ 52 := by omega
  have hplace : ((band + 1) * 2 ^ 52 + place) % 2 ^ 52 = place := by omega
  have hband : ((band + 1) * 2 ^ 52 + place) / 2 ^ 52 = band + 1 := by omega
  unfold unitsOfRank
  simp only [Nat.pow_eq] at *
  rw [if_neg hlarge, hplace, hband, Nat.add_sub_cancel]

theorem unitsOfRank_lt_succ (rank : Nat) : unitsOfRank rank < unitsOfRank (rank + 1) := by
  rcases Nat.lt_or_ge rank (2 ^ 52) with hsmall | hlarge
  · rw [unitsOfRank_of_lt hsmall]
    rcases Nat.lt_or_ge (rank + 1) (2 ^ 52) with hnext | hlast
    · rw [unitsOfRank_of_lt hnext]
      exact Nat.lt_succ_self rank
    · have hband : rank + 1 = (0 + 1) * 2 ^ 52 + 0 := by omega
      rw [hband, unitsOfRank_add (Nat.two_pow_pos 52)]
      omega
  · obtain ⟨band, place, hplace, rfl⟩ :
        ∃ band place, place < 2 ^ 52 ∧ rank = (band + 1) * 2 ^ 52 + place :=
      ⟨rank / 2 ^ 52 - 1, rank % 2 ^ 52, Nat.mod_lt _ (Nat.two_pow_pos 52), by omega⟩
    have hstep : 0 < 2 ^ band := Nat.two_pow_pos band
    rw [unitsOfRank_add hplace, Nat.add_assoc]
    rcases Nat.lt_or_ge (place + 1) (2 ^ 52) with hnext | hlast
    · rw [unitsOfRank_add hnext]
      exact Nat.mul_lt_mul_of_pos_right (by omega) hstep
    · have hband : (band + 1) * 2 ^ 52 + (place + 1) = (band + 1 + 1) * 2 ^ 52 + 0 := by omega
      have hdouble : 2 ^ (band + 1) = 2 * 2 ^ band := Nat.pow_succ'
      rw [hband, unitsOfRank_add (Nat.two_pow_pos 52), Nat.add_zero, hdouble]
      calc (2 ^ 52 + place) * 2 ^ band < 2 ^ 53 * 2 ^ band :=
            Nat.mul_lt_mul_of_pos_right (by omega) hstep
        _ = 2 ^ 52 * (2 * 2 ^ band) := Nat.mul_assoc (2 ^ 52) 2 (2 ^ band)

theorem unitsOfRank_strictMono : StrictMono unitsOfRank :=
  strictMono_nat_of_lt_succ unitsOfRank_lt_succ

/-- The place of a rank, where ranks beyond the finite ones lie at the ends of the line. -/
theorem position?_ofRank (negative : Bool) (rank : Nat) :
    (ofRank negative rank).position? = some
      (if rank < rankBound then .units (if negative then -unitsOfRank rank else unitsOfRank rank)
        else if negative then .bottom else .top) := by
  unfold ofRank
  split
  · rfl
  · rfl

end Binary64

namespace Number

theorem le_iff {a b : Number} :
    a.le b = true ↔ ∃ p q, a.position? = some p ∧ b.position? = some q ∧ p.le q = true := by
  cases ha : a.position? <;> cases hb : b.position? <;> simp [le, ha, hb]

end Number

namespace Binary64

theorem ofRank_le_ofRank {m n : Nat} (h : m ≤ n) :
    (Number.double (ofRank false m)).le (.double (ofRank false n)) = true := by
  have hunits : unitsOfRank m ≤ unitsOfRank n := unitsOfRank_strictMono.monotone h
  refine Number.le_iff.mpr ⟨_, _, position?_ofRank .., position?_ofRank .., ?_⟩
  simp only [Bool.false_eq_true, if_false]
  split_ifs with hm hn hn
  · simpa [Position.le] using hunits
  · rfl
  · omega
  · rfl

theorem ofRank_negative_le_ofRank_negative {m n : Nat} (h : m ≤ n) :
    (Number.double (ofRank true n)).le (.double (ofRank true m)) = true := by
  have hunits : unitsOfRank m ≤ unitsOfRank n := unitsOfRank_strictMono.monotone h
  refine Number.le_iff.mpr ⟨_, _, position?_ofRank .., position?_ofRank .., ?_⟩
  simp only [if_true]
  split_ifs with hn hm hm
  · simpa [Position.le] using hunits
  · omega
  · rfl
  · rfl

theorem ofRank_negative_le_ofRank (m n : Nat) :
    (Number.double (ofRank true m)).le (.double (ofRank false n)) = true := by
  refine Number.le_iff.mpr ⟨_, _, position?_ofRank .., position?_ofRank .., ?_⟩
  simp only [Bool.false_eq_true, if_false, if_true]
  split_ifs
  · have hsigns : -(unitsOfRank m : Int) ≤ unitsOfRank n := by omega
    exact decide_eq_true hsigns
  · rfl
  · rfl
  · rfl

theorem rankOfQuotient_mul_unity_le {a b c d : Nat} (hb : 0 < b) (hd : 0 < d)
    (h : a * d ≤ c * b) : rankOfQuotient (a * unity) b ≤ rankOfQuotient (c * unity) d := by
  apply rankOfQuotient_le_rankOfQuotient hb hd
  rw [Nat.mul_right_comm, Nat.mul_right_comm c]
  exact Nat.mul_le_mul_right unity h

/-- Rounding keeps the order of quotients. -/
theorem ofRatio_le_ofRatio {a c : Int} {b d : Nat} (hb : 0 < b) (hd : 0 < d)
    (h : a * d ≤ c * b) : (Number.double (ofRatio a b)).le (.double (ofRatio c d)) = true := by
  unfold ofRatio nearest
  rcases Int.lt_or_le a 0 with ha | ha
  · rcases Int.lt_or_le c 0 with hc | hc
    · have habs : c.natAbs * b ≤ a.natAbs * d := by
        zify
        rw [abs_of_neg hc, abs_of_neg ha]
        linarith
      rw [decide_eq_true ha, decide_eq_true hc]
      exact ofRank_negative_le_ofRank_negative (rankOfQuotient_mul_unity_le hd hb habs)
    · rw [decide_eq_true ha, decide_eq_false (Int.not_lt.mpr hc)]
      exact ofRank_negative_le_ofRank _ _
  · have hc : 0 ≤ c := by
      by_contra hneg
      have hbelow : c * b < 0 := Int.mul_neg_of_neg_of_pos (by omega) (by exact_mod_cast hb)
      have habove : 0 ≤ a * d := Int.mul_nonneg ha (Int.natCast_nonneg d)
      omega
    have habs : a.natAbs * d ≤ c.natAbs * b := by
      zify
      rwa [abs_of_nonneg ha, abs_of_nonneg hc]
    rw [decide_eq_false (Int.not_lt.mpr ha), decide_eq_false (Int.not_lt.mpr hc)]
    exact ofRank_le_ofRank (rankOfQuotient_mul_unity_le hb hd habs)

end Binary64

end FidelityGate
