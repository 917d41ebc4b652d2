import FidelityGate.Binary64.Rounding

/-!
# Rounding an integer that is kept in words

An integer in a document is kept in words of 64 binary digits, the highest of them without leading
zeros, and is rounded from these.  The two highest words are looked at in full.  Of each lower word
only as many digits are looked at, from its low end, as the highest word has; the others count as
zeros.  An integer of at most two words is therefore rounded to the nearest double, and a longer
one may miss it if it lies just above the middle of two doubles.
-/

namespace FidelityGate.Binary64

/-- Of each of the `count` lowest words only the `width` lowest digits are kept. -/
def keepLow (width : Nat) : (count : Nat) → Nat → Nat
  | 0, n => n
  | count + 1, n =>
    n % Nat.pow 2 width + Nat.pow 2 64 * keepLow width count (n / Nat.pow 2 64)

theorem keepLow_zero (width n : Nat) : keepLow width 0 n = n := rfl

/-- The digits of a magnitude that are looked at.  Its highest word has `n.log2 % 64 + 1` digits,
and `n.log2 / 64` words are below that one. -/
def seenDigits (n : Nat) : Nat :=
  keepLow (n.log2 % 64 + 1) (n.log2 / 64 - 1) n

theorem seenDigits_of_lt (n : Nat) (h : n < Nat.pow 2 128) : seenDigits n = n := by
  have hlog : n.log2 / 64 - 1 = 0 := by
    by_cases hn : n = 0
    · simp [hn]
    · have := (Nat.log2_lt hn).mpr h
      omega
  rw [seenDigits, hlog, keepLow_zero]

/-- The double of an integer in a document; an infinity beyond the range. -/
def ofWords (n : Int) : Binary64 :=
  nearest (n < 0) (seenDigits n.natAbs * unity) 1

theorem ofWords_eq_ofInt (n : Int) (h : n.natAbs < Nat.pow 2 128) : ofWords n = ofInt n := by
  rw [ofWords, ofInt, seenDigits_of_lt _ h]

end FidelityGate.Binary64
