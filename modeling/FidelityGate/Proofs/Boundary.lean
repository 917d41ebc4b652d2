import FidelityGate.Proofs.Judgement
import FidelityGate.Proofs.Nearest

/-!
# The boundary of a threshold

A threshold is inclusive, and it is sharp to one character: what exactly meets it passes, and a
candidate that is one character longer fails.  A rounded saving that meets a threshold may belong to
a fraction below it, but only to one that is above the next smaller double.
-/

namespace FidelityGate

/-! ## The next double below another one -/

namespace Binary64

/-- The greatest of the doubles below another one. -/
structure IsNextBelow (p x : Binary64) : Prop where
  isFinite : p.isFinite = true
  lt : p.toRat < x.toRat
  greatest : ∀ y : Binary64, y.isFinite = true → y.toRat < x.toRat → y.toRat ≤ p.toRat

/-- The magnitudes of two neighbouring ranks have none between them. -/
theorem toUnits_le_of_lt_succ {y : Binary64} (hy : y.isFinite = true) {rank : Nat}
    (h : y.toUnits < unitsOfRank (rank + 1)) : y.toUnits ≤ unitsOfRank rank := by
  cases y with
  | nan => cases hy
  | infinite negative => cases hy
  | finite negative rank' hrank' =>
      cases negative with
      | true =>
          rw [toUnits_negative]
          omega
      | false =>
          rw [toUnits_positive, Int.ofNat_lt, unitsOfRank_strictMono.lt_iff_lt] at h
          rw [toUnits_positive, Int.ofNat_le]
          exact unitsOfRank_strictMono.monotone (Nat.lt_succ_iff.mp h)

theorem exists_isNextBelow {x : Binary64} (hx : x.isFinite = true) (hpos : 0 < x.toRat) :
    ∃ p : Binary64, p.IsNextBelow x := by
  rw [toRat_pos] at hpos
  cases x with
  | nan => cases hx
  | infinite negative => cases hx
  | finite negative rank hrank =>
      cases negative with
      | true =>
          rw [toUnits_negative] at hpos
          omega
      | false =>
          cases rank with
          | zero => exact absurd hpos (lt_irrefl 0)
          | succ lower =>
              refine ⟨.finite false lower (Nat.lt_of_succ_lt hrank), rfl, ?_, ?_⟩
              · rw [toRat_lt_toRat, toUnits_positive, toUnits_positive, Int.ofNat_lt]
                exact unitsOfRank_lt_succ lower
              · intro y hy hlt
                rw [toRat_lt_toRat] at hlt
                rw [toRat_le_toRat]
                exact toUnits_le_of_lt_succ hy hlt

theorem toUnits_ofRatio {a b : Nat} (h : (ofRatio a b).isFinite = true) :
    (ofRatio a b).toUnits = unitsOfRank (rankOfQuotient (a * unity) b) := by
  have hsign : decide ((a : Int) < 0) = false := by simp
  rw [ofRatio, nearest, hsign, Int.natAbs_natCast, ofRank] at h ⊢
  split at h
  · next hrank =>
      rw [dif_pos hrank]
      rfl
  · cases h

end Binary64

/-! ## Savings and doubles -/

section Savings

variable {before after : Int} {saved saved' x : Binary64}

theorem toRat_le_saving (hbefore : 0 < before) (hx : x.isFinite = true)
    (hsaved : saving before after = .ok saved) (h : x.toRat ≤ ((before : ℚ) - after) / before) :
    x.toRat ≤ saved.toRat := by
  rw [← Number.le_double_iff hx (saving_isFinite hsaved)]
  obtain ⟨-, rfl, -⟩ := (saving_eq_ok_iff.mp hsaved).resolve_left (by omega)
  apply Binary64.le_ofRatio hx (by omega)
  rw [Int.toNat_of_nonneg hbefore.le, ← Binary64.toRat_le_div hbefore, Int.cast_sub]
  exact h

theorem saving_le_toRat (hbefore : 0 < before) (hx : x.isFinite = true)
    (hsaved : saving before after = .ok saved) (h : ((before : ℚ) - after) / before ≤ x.toRat) :
    saved.toRat ≤ x.toRat := by
  rw [← Number.le_double_iff (saving_isFinite hsaved) hx]
  obtain ⟨-, rfl, -⟩ := (saving_eq_ok_iff.mp hsaved).resolve_left (by omega)
  apply Binary64.ofRatio_le hx (by omega)
  rw [Int.toNat_of_nonneg hbefore.le, ← Binary64.div_le_toRat hbefore, Int.cast_sub]
  exact h

/-- Of a length below `2 ^ 53`, every character that is saved counts. -/
theorem toRat_saving_lt {after' : Int} (hafter : 0 ≤ after) (hlt : after < after')
    (hle : after' ≤ before) (hbefore : before < 2 ^ 53) (hsaved : saving before after = .ok saved)
    (hsaved' : saving before after' = .ok saved') : saved'.toRat < saved.toRat := by
  have hfinite := saving_isFinite hsaved
  have hfinite' := saving_isFinite hsaved'
  obtain ⟨-, rfl, -⟩ := (saving_eq_ok_iff.mp hsaved).resolve_left (by omega)
  obtain ⟨-, rfl, -⟩ := (saving_eq_ok_iff.mp hsaved').resolve_left (by omega)
  obtain ⟨a, ha⟩ := Int.eq_ofNat_of_zero_le (show 0 ≤ before - after by omega)
  obtain ⟨a', ha'⟩ := Int.eq_ofNat_of_zero_le (show 0 ≤ before - after' by omega)
  rw [ha] at hfinite ⊢
  rw [ha'] at hfinite' ⊢
  rw [Binary64.toRat_lt_toRat, Binary64.toUnits_ofRatio hfinite, Binary64.toUnits_ofRatio hfinite',
    Int.ofNat_lt]
  apply Binary64.unitsOfRank_lt_unitsOfRank <;> omega

end Savings

/-! ## Meeting a ratio -/

/-- The size check: between texts of these lengths at least the ratio is saved that is enforced
where this one is asked for. -/
def Meets (before after : Int) (ratio : Number) : Prop :=
  ∃ saved, saving before after = .ok saved ∧ ratio.orDefault.le (.double saved) = true

/-- A judgement makes this check, and finds fault with the size exactly if it fails. -/
theorem exists_judge_iff_meets {before after : Candidate} {n m : Nat}
    (hn : before.textLength? = some n) (hm : after.textLength? = some m)
    (hbefore : before.IsReadable) (hafter : after.IsReadable) (ratio : Number) :
    (∃ verdict, judge before after (.number ratio) = .ok verdict ∧
      Reason.savingTooSmall ∉ verdict.reasons) ↔ Meets n m ratio := by
  constructor
  · rintro ⟨verdict, hjudge, hnot⟩
    obtain ⟨⟨required, n', m', saved⟩, hof, rfl⟩ := judge_eq_ok_iff.mp hjudge
    obtain rfl : n = n' := Option.some.inj (hn.symm.trans hof.beforeLength)
    obtain rfl : m = m' := Option.some.inj (hm.symm.trans hof.afterLength)
    obtain rfl : ratio.orDefault = required := Except.ok.inj hof.required
    rw [Findings.verdict, Verdict.mem_reasons_ofEntries] at hnot
    exact ⟨saved, hof.saved, not_not.mp hnot⟩
  · rintro ⟨saved, hsaved, henough⟩
    refine ⟨_, judge_eq_ok_iff.mpr ⟨⟨ratio.orDefault, n, m, saved⟩,
      ⟨rfl, hn, hm, hsaved, hbefore, hafter⟩, rfl⟩, ?_⟩
    rw [Findings.verdict, Verdict.mem_reasons_ofEntries]
    exact not_not.mpr henough

theorem meets_double_iff {x : Binary64} (hx : x.isFinite = true) (hpos : 0 < x.toRat)
    {before after : Int} :
    Meets before after (.double x) ↔
      ∃ saved, saving before after = .ok saved ∧ x.toRat ≤ saved.toRat := by
  have hsame : (Number.double x).orDefault = .double x :=
    if_pos ((Number.isPositive_double_iff hx).mpr hpos)
  rw [Meets, hsame]
  apply exists_congr
  intro saved
  apply and_congr_right
  intro hsaved
  exact Number.le_double_iff hx (saving_isFinite hsaved)

/-- One character more than what exactly meets a saving is too much.  A threshold is met by every
fraction that reaches it, and only by fractions above the next smaller double. -/
theorem size_check_is_sharp :
    (∀ n m : Int, 0 ≤ m → m < n → n < 2 ^ 53 →
      ∃ r : Binary64, saving n m = .ok r ∧ 0 < r.toRat ∧ Meets n m (.double r) ∧
        ∀ m', m < m' → m' ≤ n → ¬ Meets n m' (.double r)) ∧
    (∀ n m : Int, ∀ threshold : Binary64, 0 < n → 0 ≤ m → threshold.isFinite = true →
      0 < threshold.toRat →
        (threshold.toRat ≤ ((n : ℚ) - m) / n → Meets n m (.double threshold)) ∧
        (Meets n m (.double threshold) →
          ∃ p : Binary64, p.IsNextBelow threshold ∧ p.toRat < ((n : ℚ) - m) / n)) ∧
    ∀ before after : Candidate, ∀ n m : Nat, ∀ ratio : Number,
      before.textLength? = some n → after.textLength? = some m →
        before.IsReadable → after.IsReadable →
          ((∃ verdict, judge before after (.number ratio) = .ok verdict ∧
            Reason.savingTooSmall ∉ verdict.reasons) ↔ Meets n m ratio) := by
  refine ⟨?_, ?_, ?_⟩
  · intro n m hm hlt hn
    obtain ⟨r, hr⟩ := exists_saving_of_nonneg hm hlt.le
    have hpos : 0 < r.toRat := by
      have hless := toRat_saving_lt hm hlt le_rfl hn hr (saving_self n)
      rwa [Binary64.toRat_zero] at hless
    have hfinite := saving_isFinite hr
    refine ⟨r, hr, hpos, (meets_double_iff hfinite hpos).mpr ⟨r, hr, le_rfl⟩, ?_⟩
    intro m' hm' hle hmeets
    obtain ⟨r', hr', hge⟩ := (meets_double_iff hfinite hpos).mp hmeets
    exact absurd (toRat_saving_lt hm hm' hle hn hr hr') (not_lt.mpr hge)
  · intro n m threshold hn hm hfinite hpos
    rw [meets_double_iff hfinite hpos]
    constructor
    · intro hge
      -- A positive fraction leaves less than there was, so there is a saving.
      have hless : m ≤ n := by
        have hfraction : (0 : ℚ) < ((n : ℚ) - m) / n := hpos.trans_le hge
        rw [div_pos_iff_of_pos_right (by exact_mod_cast hn), sub_pos] at hfraction
        exact_mod_cast hfraction.le
      obtain ⟨saved, hsaved⟩ := exists_saving_of_nonneg hm hless
      exact ⟨saved, hsaved, toRat_le_saving hn hfinite hsaved hge⟩
    · rintro ⟨saved, hsaved, hge⟩
      obtain ⟨p, hp⟩ := Binary64.exists_isNextBelow hfinite hpos
      refine ⟨p, hp, ?_⟩
      by_contra hnot
      have hbelow := saving_le_toRat hn hp.isFinite hsaved (not_lt.mp hnot)
      exact absurd (hge.trans hbelow) (not_le.mpr hp.lt)
  · intro before after n m ratio hn hm hbefore hafter
    exact exists_judge_iff_meets hn hm hbefore hafter ratio

/-- Of 100 characters 65 may be left where the default is enforced, and not one more. -/
theorem size_check_is_sharp_at_default :
    Meets 100 65 (.double defaultRatio) ∧ ¬ Meets 100 66 (.double defaultRatio) ∧
      ∃ p : Binary64, p.IsNextBelow defaultRatio ∧
        p.toRat < (((100 : Int) : ℚ) - (65 : Int)) / (100 : Int) := by
  obtain ⟨hsharp, hfraction, -⟩ := size_check_is_sharp
  obtain ⟨r, hr, hpos, hmeets, hlonger⟩ := hsharp 100 65 (by decide) (by decide) (by decide)
  have hdefault : (saving 100 65).toOption = some defaultRatio := by decide +kernel
  rw [hr] at hdefault
  rw [Option.some.inj hdefault] at hr hpos hmeets hlonger
  refine ⟨hmeets, hlonger 66 (by decide) (by decide), ?_⟩
  exact (hfraction 100 65 defaultRatio (by decide) (by decide) (saving_isFinite hr) hpos).2 hmeets

end FidelityGate
