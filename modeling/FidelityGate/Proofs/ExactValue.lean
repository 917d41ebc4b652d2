import FidelityGate.Proofs.SavingOrder
import Mathlib.Algebra.Order.Field.Rat
import Mathlib.Algebra.Order.Field.Basic

/-!
# Exact values

A finite double is a number of units, and its exact value is that number over the units in one.
Comparisons of doubles are comparisons of their exact values.
-/

namespace FidelityGate

namespace Binary64

/-- The exact value of a finite double. -/
def toRat (x : Binary64) : ℚ :=
  x.toUnits / unity

section Finite

variable {rank : Nat} (hrank : rank < rankBound)

@[simp] theorem toUnits_positive : (finite false rank hrank).toUnits = unitsOfRank rank := rfl

@[simp] theorem toUnits_negative : (finite true rank hrank).toUnits = -unitsOfRank rank := rfl

end Finite

@[simp] theorem unitsOfRank_zero : unitsOfRank 0 = 0 := rfl

theorem unity_pos : 0 < unity := by
  decide +kernel

theorem cast_unity_pos : (0 : ℚ) < unity :=
  Nat.cast_pos.mpr unity_pos

@[simp] theorem toRat_zero : zero.toRat = 0 := by
  rw [toRat, zero, toUnits_positive, unitsOfRank_zero, Int.natCast_zero, Int.cast_zero, zero_div]

theorem toRat_le_toRat {x y : Binary64} : x.toRat ≤ y.toRat ↔ x.toUnits ≤ y.toUnits := by
  rw [toRat, toRat, div_le_div_iff_of_pos_right cast_unity_pos, Int.cast_le]

theorem toRat_lt_toRat {x y : Binary64} : x.toRat < y.toRat ↔ x.toUnits < y.toUnits := by
  rw [← not_le, toRat_le_toRat, not_le]

theorem toRat_pos {x : Binary64} : 0 < x.toRat ↔ 0 < x.toUnits := by
  rw [toRat, div_pos_iff_of_pos_right cast_unity_pos, Int.cast_pos]

theorem position?_of_isFinite {x : Binary64} (hx : x.isFinite = true) :
    x.position? = some (.units x.toUnits) := by
  cases x with
  | finite negative rank hrank => rfl
  | _ => cases hx

/-- A fraction is compared with an exact value by counting units. -/
theorem toRat_le_div {x : Binary64} {a b : Int} (hb : 0 < b) :
    x.toRat ≤ a / b ↔ x.toUnits * b ≤ a * unity := by
  have hb' : (0 : ℚ) < b := by exact_mod_cast hb
  rw [toRat, div_le_div_iff₀ cast_unity_pos hb']
  exact_mod_cast Iff.rfl

theorem div_le_toRat {x : Binary64} {a b : Int} (hb : 0 < b) :
    (a : ℚ) / b ≤ x.toRat ↔ a * unity ≤ x.toUnits * b := by
  have hb' : (0 : ℚ) < b := by exact_mod_cast hb
  rw [toRat, div_le_div_iff₀ hb' cast_unity_pos]
  exact_mod_cast Iff.rfl

end Binary64

namespace Number

/-! Doubles at one place compare alike. -/

theorem le_congr_left {x y : Binary64} {b : Number} (h : x.position? = y.position?) :
    (double x).le b = (double y).le b := by
  simp only [le, position?, h]

theorem le_congr_right {x y : Binary64} {a : Number} (h : x.position? = y.position?) :
    a.le (.double x) = a.le (.double y) := by
  simp only [le, position?, h]

variable {x y : Binary64} (hx : x.isFinite = true)

include hx

theorem le_double_iff (hy : y.isFinite = true) :
    (double x).le (.double y) = true ↔ x.toRat ≤ y.toRat := by
  simp [le, position?, Binary64.position?_of_isFinite hx, Binary64.position?_of_isFinite hy,
    Position.le, Binary64.toRat_le_toRat]

theorem le_int_iff (n : Int) : (double x).le (.int n) = true ↔ x.toRat ≤ n := by
  rw [Binary64.toRat, div_le_iff₀ Binary64.cast_unity_pos]
  simp only [le, position?, Binary64.position?_of_isFinite hx, Position.le, decide_eq_true_eq]
  exact_mod_cast Iff.rfl

theorem isPositive_double_iff : (double x).isPositive = true ↔ 0 < x.toRat := by
  rw [Binary64.toRat_pos, isPositive_iff]
  simp [position?, Binary64.position?_of_isFinite hx, Position.lt, Position.le]

end Number

end FidelityGate
