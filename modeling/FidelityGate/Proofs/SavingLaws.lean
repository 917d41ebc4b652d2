import FidelityGate.Proofs.ExactValue

/-!
# The laws of savings

How a saving changes with the two integers that it is computed from, however large these are.  The
less is left, and the more there was to begin with, the greater is the saving.  Its sign tells
whether anything got shorter or longer, but it may be zero for a change too small for a double.
-/

namespace FidelityGate

variable {before after : Int} {saved saved' : Binary64}

theorem saving_isFinite (h : saving before after = .ok saved) : saved.isFinite = true := by
  rcases saving_eq_ok_iff.mp h with ⟨-, rfl⟩ | ⟨-, -, hfinite⟩
  · rfl
  · exact hfinite

theorem toRat_saving_le_of_after_le {after' : Int} (hafter : after ≤ after')
    (hsaved : saving before after = .ok saved) (hsaved' : saving before after' = .ok saved') :
    saved'.toRat ≤ saved.toRat := by
  rw [← Number.le_double_iff (saving_isFinite hsaved') (saving_isFinite hsaved)]
  exact saving_le_saving_of_after_le hafter hsaved' hsaved

theorem toRat_saving_le_of_before_le {before' : Int} (hbefore : 0 < before)
    (hle : before ≤ before') (hafter : 0 ≤ after) (hsaved : saving before after = .ok saved)
    (hsaved' : saving before' after = .ok saved') : saved.toRat ≤ saved'.toRat := by
  rw [← Number.le_double_iff (saving_isFinite hsaved) (saving_isFinite hsaved')]
  apply saving_le_saving hbefore (by omega) hsaved hsaved'
  -- Both products have the product of the lengths in common.
  have hleft : after * before ≤ after * before' := Int.mul_le_mul_of_nonneg_left hle hafter
  rw [Int.sub_mul, Int.sub_mul, Int.mul_comm before' before]
  omega

theorem toRat_saving_le_one (hafter : 0 ≤ after) (h : saving before after = .ok saved) :
    saved.toRat ≤ 1 := by
  have hone := (Number.le_int_iff (saving_isFinite h) 1).mp (saving_le_one_of_nonneg hafter h)
  rwa [Int.cast_one] at hone

theorem lt_of_toRat_saving_pos (h : saving before after = .ok saved) (hpos : 0 < saved.toRat) :
    after < before :=
  lt_of_saving_isPositive h ((Number.isPositive_double_iff (saving_isFinite h)).mpr hpos)

theorem lt_of_toRat_saving_neg (h : saving before after = .ok saved) (hneg : saved.toRat < 0) :
    before < after := by
  by_contra hle
  have hshorter : after ≤ before := by omega
  have hzero := toRat_saving_le_of_after_le hshorter h (saving_self before)
  rw [Binary64.toRat_zero] at hzero
  exact absurd hneg (not_lt.mpr hzero)

/-- A saving falls with what is left and rises with what there was to begin with.  It is finite and
at most one, and its sign never contradicts the change in length. -/
theorem saving_follows_lengths :
    (∀ before after after' : Int, ∀ saved saved' : Binary64, after ≤ after' →
      saving before after = .ok saved → saving before after' = .ok saved' →
        saved'.toRat ≤ saved.toRat) ∧
    (∀ before before' after : Int, ∀ saved saved' : Binary64,
      0 < before → before ≤ before' → 0 ≤ after →
        saving before after = .ok saved → saving before' after = .ok saved' →
          saved.toRat ≤ saved'.toRat) ∧
    (∀ before after : Int, ∀ saved : Binary64, saving before after = .ok saved →
      saved.isFinite = true ∧ (0 ≤ after → saved.toRat ≤ 1) ∧
        (0 < saved.toRat → after < before) ∧ (saved.toRat < 0 → before < after)) ∧
    (∀ before after : Int, 0 ≤ after → after ≤ before →
      ∃ saved, saving before after = .ok saved) ∧
    ∀ before after : Int, before ≤ 0 → saving before after = .ok .zero := by
  refine ⟨?_, ?_, ?_, ?_, ?_⟩
  · intro before after after' saved saved' hafter hsaved hsaved'
    exact toRat_saving_le_of_after_le hafter hsaved hsaved'
  · intro before before' after saved saved' hbefore hle hafter hsaved hsaved'
    exact toRat_saving_le_of_before_le hbefore hle hafter hsaved hsaved'
  · intro before after saved h
    exact ⟨saving_isFinite h, fun hafter ↦ toRat_saving_le_one hafter h, lt_of_toRat_saving_pos h,
      lt_of_toRat_saving_neg h⟩
  · intro before after hafter hle
    exact exists_saving_of_nonneg hafter hle
  · intro before after hbefore
    exact saving_of_nonpos hbefore after

end FidelityGate
