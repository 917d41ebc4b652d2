import FidelityGate.Proofs.Nearest
import FidelityGate.Proofs.Range
import Mathlib.Algebra.Order.Field.Rat
import Mathlib.Tactic.NormNum
import Mathlib.Tactic.Positivity

/-!
# Numerals

What a number literal denotes and how it is written.  A numeral with a point or an exponent has an
exact rational value, and it is read as the double nearest to this value.  Every literal, written
out, is split again into the parts that it was written from.
-/

namespace FidelityGate

open Text

/-! ## The exact value of a numeral -/

namespace Binary64

/-- The double nearest to a rational magnitude with the given sign. -/
def nearestTo (negative : Bool) (magnitude : ℚ) : Binary64 :=
  nearest negative (magnitude.num.natAbs * unity) magnitude.den

theorem nearest_eq_nearestTo (negative : Bool) (a : Nat) {b : Nat} (hb : 0 < b) :
    nearest negative (a * unity) b = nearestTo negative (a / b) := by
  generalize hq : (a / b : ℚ) = q
  have hnonneg : 0 ≤ q := hq ▸ by positivity
  have hcross : a * q.den = q.num.natAbs * b := by
    have hnum : (q.num.natAbs : ℚ) = q.num := by
      rw [Nat.cast_natAbs, abs_of_nonneg (Rat.num_nonneg.mpr hnonneg)]
    have hratio : (a : ℚ) / b = q.num / q.den := by rw [hq, Rat.num_div_den]
    rw [div_eq_div_iff (by positivity) (by positivity), ← hnum] at hratio
    exact_mod_cast hratio
  have hscaled : a * unity * q.den = q.num.natAbs * unity * b := by
    rw [Nat.mul_right_comm, hcross, Nat.mul_right_comm]
  rw [nearest, nearestTo, nearest, Nat.le_antisymm
    (rankOfQuotient_le_rankOfQuotient hb q.den_pos hscaled.le)
    (rankOfQuotient_le_rankOfQuotient q.den_pos hb hscaled.ge)]

/-- From `10 ^ 310` on everything is an infinity. -/
theorem nearest_of_large (negative : Bool) {num den : Nat} (hden : 0 < den)
    (h : 10 ^ 310 * unity * den ≤ num) : nearest negative num den = .infinite negative := by
  have hbound : integerBound ≤ 10 ^ 310 :=
    calc integerBound ≤ 2 ^ 1024 := integerBound_le
      _ = (2 ^ 93) ^ 11 * 2 := by rw [← pow_mul, ← pow_succ]
      _ ≤ (10 ^ 28) ^ 11 * 10 := Nat.mul_le_mul (pow_le_pow_left₀ (by decide) (by norm_num) 11)
        (by decide)
      _ = 10 ^ 309 := by rw [← pow_mul, ← pow_succ]
      _ ≤ 10 ^ 310 := pow_le_pow_right₀ (by decide) (by decide)
  have hscaled : integerBound * unity * den ≤ num * 1 :=
    calc integerBound * unity * den ≤ 10 ^ 310 * unity * den :=
          Nat.mul_le_mul_right den (Nat.mul_le_mul_right unity hbound)
      _ ≤ num * 1 := h.trans (Nat.mul_one num).ge
  have hrank := rankOfQuotient_le_rankOfQuotient Nat.one_pos hden hscaled
  rw [nearest, ofRank, dif_neg (Nat.not_lt.mpr (rankOfQuotient_integerBound.1.trans hrank))]

/-- Below `10 ^ (-330)` everything is zero. -/
theorem nearest_of_small (negative : Bool) {num den : Nat} (hden : 0 < den)
    (h : num * 10 ^ 330 ≤ unity * den) : nearest negative num den = .ofRank negative 0 := by
  have hbound : rankOfQuotient unity (10 ^ 330) = 0 := by decide +kernel
  have hrank : rankOfQuotient num den ≤ 0 :=
    hbound ▸ rankOfQuotient_le_rankOfQuotient hden (by positivity) h
  rw [nearest, Nat.le_zero.mp hrank]

theorem lt_ten_pow (digits : Nat) : digits < 10 ^ (digits.log2 / 3 + 1) :=
  calc digits < 2 ^ (digits.log2 + 1) := Nat.lt_log2_self
    _ ≤ 2 ^ (3 * (digits.log2 / 3 + 1)) := Nat.pow_le_pow_right Nat.two_pos (by omega)
    _ = (2 ^ 3) ^ (digits.log2 / 3 + 1) := Nat.pow_mul ..
    _ ≤ 10 ^ (digits.log2 / 3 + 1) := Nat.pow_le_pow_left (by decide) _

theorem nearestTo_mul_pow (negative : Bool) (digits k : Nat) :
    nearestTo negative (digits * 10 ^ (k : Int)) =
      nearest negative (digits * 10 ^ k * unity) 1 := by
  rw [nearest_eq_nearestTo _ _ Nat.one_pos]
  push_cast
  rw [div_one, zpow_natCast]

theorem nearestTo_div_pow (negative : Bool) (digits k : Nat) :
    nearestTo negative (digits * 10 ^ (-k : Int)) =
      nearest negative (digits * unity) (10 ^ k) := by
  rw [nearest_eq_nearestTo _ _ (by positivity)]
  push_cast
  rw [zpow_neg, zpow_natCast, div_eq_mul_inv]

theorem nearestTo_zero (negative : Bool) : nearestTo negative 0 = .ofRank negative 0 := by
  have hrank : rankOfQuotient 0 1 = 0 := by decide
  rw [nearestTo, Rat.num_zero, Rat.den_zero, Int.natAbs_zero, Nat.zero_mul, nearest, hrank]

/-- The powers of ten that are not formed do not matter. -/
theorem ofDecimal_eq_nearestTo (negative : Bool) (digits : Nat) (exponent : Int) :
    ofDecimal negative digits exponent = nearestTo negative (digits * 10 ^ exponent) := by
  rw [ofDecimal]
  rcases Nat.eq_zero_or_pos digits with rfl | hdigits
  · rw [if_pos rfl, Nat.cast_zero, zero_mul, nearestTo_zero]
  rw [if_neg hdigits.ne']
  rcases Int.le_total 0 exponent with hexponent | hexponent
  · obtain ⟨k, rfl⟩ := Int.eq_ofNat_of_zero_le hexponent
    rw [nearestTo_mul_pow, if_neg (c := _ < _) (by omega), if_pos hexponent, Int.toNat_natCast]
    split_ifs with hlarge
    · have hpower : 10 ^ 310 ≤ digits * 10 ^ k :=
        calc 10 ^ 310 ≤ 10 ^ k := pow_le_pow_right₀ (by decide) (by omega)
          _ ≤ digits * 10 ^ k := Nat.le_mul_of_pos_left _ hdigits
      refine (nearest_of_large negative Nat.one_pos ?_).symm
      rw [Nat.mul_one]
      exact Nat.mul_le_mul_right unity hpower
    · rfl
  · obtain ⟨k, hk⟩ := Int.eq_ofNat_of_zero_le (Int.neg_nonneg_of_nonpos hexponent)
    obtain rfl : exponent = -k := by omega
    rw [nearestTo_div_pow, if_neg (by omega)]
    split_ifs with hsmall hzero
    · have hpower : digits * 10 ^ 330 ≤ 10 ^ k :=
        calc digits * 10 ^ 330 ≤ 10 ^ (digits.log2 / 3 + 1) * 10 ^ 330 :=
              Nat.mul_le_mul_right _ (lt_ten_pow digits).le
          _ = 10 ^ (digits.log2 / 3 + 1 + 330) := (pow_add ..).symm
          _ ≤ 10 ^ k := pow_le_pow_right₀ (by decide) (by omega)
      refine (nearest_of_small negative (by positivity) ?_).symm
      rw [Nat.mul_right_comm, Nat.mul_comm]
      exact Nat.mul_le_mul_left unity hpower
    · obtain rfl : k = 0 := by omega
      exact congrArg (fun num ↦ nearest negative (num * unity) 1) (Nat.mul_one digits)
    · rw [Int.neg_neg, Int.toNat_natCast]
      rfl

end Binary64

namespace Numeral

def power (numeral : Numeral) : Int :=
  numeral.exponent.elim 0 fun (sign, digits) ↦
    if sign.isMinus then -(digitsValue digits : Int) else digitsValue digits

/-- The exact value of a numeral, its sign apart. -/
def magnitude (numeral : Numeral) : ℚ :=
  let fraction := numeral.fraction.getD []
  digitsValue (numeral.whole ++ fraction) * 10 ^ (numeral.power - fraction.length)

theorem toBinary64_eq_nearestTo (numeral : Numeral) :
    numeral.toBinary64 = .nearestTo numeral.sign.isMinus numeral.magnitude := by
  rw [magnitude, ← Binary64.ofDecimal_eq_nearestTo, power, toBinary64]
  cases numeral.exponent <;> rfl

end Numeral

/-! ## Literals -/

def Text.IsDigits (ds : List Char) : Prop :=
  ds ≠ [] ∧ ∀ d ∈ ds, isDigit d = true

instance (ds : List Char) : Decidable (IsDigits ds) :=
  decidable_of_iff (ds ≠ [] ∧ ds.all isDigit = true) (by rw [IsDigits, List.all_eq_true])

def Sign.write : Sign → List Char
  | .none => []
  | .plus => ['+']
  | .minus => ['-']

namespace Numeral

/-- The numbers of documents: no plus sign in front, digits before the point and behind it, no
leading zero unless it is the only digit before the point, and digits in an exponent. -/
structure IsLiteral (numeral : Numeral) : Prop where
  unsigned : numeral.sign ≠ .plus
  whole : IsDigits numeral.whole
  leading : numeral.whole.head? = some '0' → numeral.whole = ['0']
  fraction : ∀ ds ∈ numeral.fraction, IsDigits ds
  exponent : ∀ power ∈ numeral.exponent, IsDigits power.2

def writeExponent (mark : Char) : Option (Sign × List Char) → List Char
  | none => []
  | some (sign, digits) => mark :: (sign.write ++ digits)

def writeFraction : Option (List Char) → List Char
  | none => []
  | some digits => '.' :: digits

def write (mark : Char) (numeral : Numeral) : List Char :=
  numeral.sign.write ++
    (numeral.whole ++ (writeFraction numeral.fraction ++ writeExponent mark numeral.exponent))

end Numeral

/-! ## Splitting a literal again -/

section Splitting

variable {ds rest : List Char}

/-- Digits end where something else begins. -/
theorem Text.takeWhile_digits (hds : IsDigits ds) (hrest : rest.head?.all (!isDigit ·)) :
    (ds ++ rest).takeWhile isDigit = ds := by
  rw [List.takeWhile_append_of_pos hds.2]
  cases rest with
  | nil => simp
  | cons c others => simp_all

theorem Text.dropWhile_digits (hds : IsDigits ds) (hrest : rest.head?.all (!isDigit ·)) :
    (ds ++ rest).dropWhile isDigit = rest := by
  rw [List.dropWhile_append_of_pos hds.2]
  cases rest with
  | nil => simp
  | cons c others => simp_all

theorem Sign.take_write (sign : Sign) (hds : IsDigits ds) :
    Sign.take (sign.write ++ (ds ++ rest)) = (sign, ds ++ rest) := by
  cases sign with
  | none =>
      obtain ⟨d, others, rfl⟩ := List.exists_cons_of_ne_nil hds.1
      have hdigit : isDigit d = true := hds.2 d List.mem_cons_self
      rw [write, List.nil_append, List.cons_append, take]
      · rintro _ ⟨⟩
        exact absurd hdigit (by decide)
      · rintro _ ⟨⟩
        exact absurd hdigit (by decide)
  | plus => rfl
  | minus => rfl

end Splitting

namespace Numeral

variable {mark : Char} (hmark : mark = 'e' ∨ mark = 'E')

include hmark

theorem scanExponent?_write {sign : Sign} {whole : List Char} {fraction : Option (List Char)}
    {exponent : Option (Sign × List Char)} (h : ∀ power ∈ exponent, IsDigits power.2) :
    scanExponent? sign whole fraction (writeExponent mark exponent) =
      some ⟨sign, whole, fraction, exponent⟩ := by
  cases exponent with
  | none => rfl
  | some power =>
      obtain ⟨exponentSign, digits⟩ := power
      have hdigits : IsDigits digits := h _ rfl
      have htake : Sign.take (exponentSign.write ++ (digits ++ [])) = _ :=
        Sign.take_write exponentSign hdigits
      rw [List.append_nil] at htake
      simpa [writeExponent, scanExponent?, htake, hmark, hdigits.1] using hdigits.2

theorem head?_writeExponent (exponent : Option (Sign × List Char)) :
    (writeExponent mark exponent).head?.all (!isDigit ·) := by
  cases exponent with
  | none => rfl
  | some power => rcases hmark with rfl | rfl <;> rfl

/-- A literal is split into the parts that it was written from. -/
theorem scan?_write {numeral : Numeral} (h : numeral.IsLiteral) :
    scan? (numeral.write mark) = some numeral := by
  obtain ⟨sign, whole, fraction, exponent⟩ := numeral
  have hexponent := h.exponent
  have hend := head?_writeExponent hmark exponent
  rw [write, scan?, Sign.take_write sign h.whole]
  cases fraction with
  | none =>
      simp only [writeFraction, List.nil_append, takeWhile_digits h.whole hend,
        dropWhile_digits h.whole hend]
      cases exponent with
      | none => rfl
      | some power =>
          rcases hmark with rfl | rfl
          · exact scanExponent?_write (.inl rfl) hexponent
          · exact scanExponent?_write (.inr rfl) hexponent
  | some digits =>
      have hdigits : IsDigits digits := h.fraction digits rfl
      have hpoint : (writeFraction (some digits) ++ writeExponent mark exponent).head?.all
          (!isDigit ·) := rfl
      simp only [takeWhile_digits h.whole hpoint, dropWhile_digits h.whole hpoint]
      simp only [writeFraction, List.cons_append, takeWhile_digits hdigits hend,
        dropWhile_digits hdigits hend]
      exact scanExponent?_write hmark hexponent

end Numeral

end FidelityGate
