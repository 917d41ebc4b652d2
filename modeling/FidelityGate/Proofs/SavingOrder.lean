import FidelityGate.Proofs.Rounding
import FidelityGate.Proofs.Threshold

/-!
# The order of savings

Savings are compared as the fractions of a length that they stand for, since rounding keeps the
order of fractions.  A text never saves more than its whole length, and a text that does not grow
always has a saving.
-/

namespace FidelityGate

namespace Number

theorem le_trans {a b c : Number} (hab : a.le b = true) (hbc : b.le c = true) :
    a.le c = true := by
  obtain ⟨p, q, hp, hq, hpq⟩ := le_iff.mp hab
  obtain ⟨q', r, hq', hr, hqr⟩ := le_iff.mp hbc
  obtain rfl : q = q' := Option.some.inj (hq.symm.trans hq')
  exact le_iff.mpr ⟨p, r, hp, hr, Position.le_trans hpq hqr⟩

theorem not_lt_of_le {a b : Number} (h : a.le b = true) : b.lt a = false := by
  obtain ⟨p, q, hp, hq, hpq⟩ := le_iff.mp h
  simp [lt, hp, hq, Position.lt, hpq]

end Number

namespace Binary64

theorem ofRatio_le_one {a : Int} {b : Nat} (hb : 0 < b) (h : a ≤ b) :
    (Number.double (ofRatio a b)).le (.int 1) = true := by
  have hone : (Number.double (ofRatio 1 1)).le (.int 1) = true := by decide +kernel
  apply Number.le_trans _ hone
  apply ofRatio_le_ofRatio hb Nat.one_pos
  omega

/-- A fraction that is no further from zero than a whole number is within the range of doubles if
that number is. -/
theorem ofRatio_isFinite_of_le {a : Int} {b bound : Nat} (hb : 0 < b)
    (hbound : rankOfQuotient (bound * unity) 1 < rankBound) (h : a.natAbs ≤ bound * b) :
    (ofRatio a b).isFinite = true := by
  have hrank : rankOfQuotient (a.natAbs * unity) b ≤ rankOfQuotient (bound * unity) 1 := by
    apply rankOfQuotient_mul_unity_le hb Nat.one_pos
    omega
  rw [ofRatio, nearest, ofRank, dif_pos (Nat.lt_of_le_of_lt hrank hbound)]
  rfl

/-- A fraction between zero and one is within the range of doubles. -/
theorem ofRatio_isFinite {a : Int} {b : Nat} (ha : 0 ≤ a) (hb : 0 < b) (h : a ≤ b) :
    (ofRatio a b).isFinite = true := by
  have hone : rankOfQuotient (1 * unity) 1 < rankBound := by decide +kernel
  apply ofRatio_isFinite_of_le hb hone
  omega

end Binary64

/-! ## Savings between integers of any size -/

section Integers

variable {before after : Int} {saved : Binary64}

theorem saving_of_nonpos (hbefore : before ≤ 0) (after : Int) :
    saving before after = .ok .zero :=
  saving_eq_ok_iff.mpr (.inl ⟨hbefore, rfl⟩)

theorem exists_saving_of_nonneg (hafter : 0 ≤ after) (h : after ≤ before) :
    ∃ saved, saving before after = .ok saved := by
  rcases Int.lt_or_le 0 before with hpos | hzero
  · refine ⟨_, saving_eq_ok_iff.mpr (.inr ⟨hpos, rfl, ?_⟩)⟩
    apply Binary64.ofRatio_isFinite <;> omega
  · exact ⟨_, saving_of_nonpos hzero after⟩

theorem saving_self (length : Int) : saving length length = .ok .zero := by
  rcases Int.lt_or_le 0 length with hpos | hzero
  · refine saving_eq_ok_iff.mpr (.inr ⟨hpos, ?_, rfl⟩)
    rw [Int.sub_self, Binary64.ofRatio_zero]
  · exact saving_of_nonpos hzero length

/-- Nothing saves more than all of it. -/
theorem saving_le_one_of_nonneg (hafter : 0 ≤ after) (h : saving before after = .ok saved) :
    (Number.double saved).le (.int 1) = true := by
  rcases saving_eq_ok_iff.mp h with ⟨-, rfl⟩ | ⟨hpos, rfl, -⟩
  · decide +kernel
  · apply Binary64.ofRatio_le_one <;> omega

/-- Of two savings the one of the greater fraction is the greater one. -/
theorem saving_le_saving {before' after' : Int} {saved' : Binary64} (hbefore : 0 < before)
    (hbefore' : 0 < before') (hsaved : saving before after = .ok saved)
    (hsaved' : saving before' after' = .ok saved')
    (h : (before - after) * before' ≤ (before' - after') * before) :
    (Number.double saved).le (.double saved') = true := by
  obtain ⟨-, rfl, -⟩ := (saving_eq_ok_iff.mp hsaved).resolve_left (by omega)
  obtain ⟨-, rfl, -⟩ := (saving_eq_ok_iff.mp hsaved').resolve_left (by omega)
  apply Binary64.ofRatio_le_ofRatio (by omega) (by omega)
  rwa [Int.toNat_of_nonneg hbefore.le, Int.toNat_of_nonneg hbefore'.le]

/-- The more is left, the smaller the saving. -/
theorem saving_le_saving_of_after_le {after' : Int} {saved' : Binary64} (h : after' ≤ after)
    (hsaved : saving before after = .ok saved) (hsaved' : saving before after' = .ok saved') :
    (Number.double saved).le (.double saved') = true := by
  rcases Int.lt_or_le 0 before with hpos | hzero
  · apply saving_le_saving hpos hpos hsaved hsaved'
    apply Int.mul_le_mul_of_nonneg_right <;> omega
  · rw [saving_of_nonpos hzero] at hsaved hsaved'
    cases hsaved
    cases hsaved'
    decide +kernel

end Integers

/-! ## Savings between lengths -/

variable {before after : Nat} {saved : Binary64}

theorem exists_saving (h : after ≤ before) : ∃ saved, saving before after = .ok saved :=
  exists_saving_of_nonneg (Int.natCast_nonneg after) (Int.ofNat_le.mpr h)

/-- A text may grow from any length to one that a machine word can hold. -/
theorem exists_saving_of_lt (before : Nat) (h : after < 2 ^ 63) :
    ∃ saved, saving before after = .ok saved := by
  rcases Nat.eq_zero_or_pos before with rfl | hpos
  · exact ⟨_, saving_of_nonpos le_rfl after⟩
  · have hword : Binary64.rankOfQuotient (2 ^ 63 * Binary64.unity) 1 < Binary64.rankBound := by
      decide +kernel
    refine ⟨_, saving_eq_ok_iff.mpr (.inr ⟨by omega, rfl, ?_⟩)⟩
    apply Binary64.ofRatio_isFinite_of_le (by omega) hword
    omega

theorem saving_le_one (h : saving before after = .ok saved) :
    (Number.double saved).le (.int 1) = true :=
  saving_le_one_of_nonneg (Int.natCast_nonneg after) h

theorem saving_le_saving_of_le {after' : Nat} {saved' : Binary64} (h : after' ≤ after)
    (hsaved : saving before after = .ok saved) (hsaved' : saving before after' = .ok saved') :
    (Number.double saved).le (.double saved') = true :=
  saving_le_saving_of_after_le (Int.ofNat_le.mpr h) hsaved hsaved'

end FidelityGate
