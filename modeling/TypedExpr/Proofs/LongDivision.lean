import Mathlib.Data.Nat.Notation
import TypedExpr.Decimal.Arithmetic

/-!
# Long division in words

The remainder by a divisor of more than 64 bits is taken word by word, from the leading word of the
dividend on. A remainder on the way that has the leading word of the divisor loses that word, since
the estimate of the next word of the quotient does not fit one. Where no remainder does, the last one
is exact.
-/

namespace TypedExpr.Decimal

/-- The power of two that brings the leading bit of a divisor to the end of 96 bits. -/
def leadingUnit (divisor : ℕ) : ℕ := 2 ^ (95 - divisor.log2)

/-- Whether the division of one coefficient by another loses a word: it goes by words, and what is
left of the words before the last one has at some time the leading word of the divisor. -/
def LosesWord (dividend divisor : ℕ) : Prop :=
  2 ^ 64 ≤ divisor ∧ ∃ words < 7, 0 < words ∧
    dividend * leadingUnit divisor / 2 ^ (32 * words) % (divisor * leadingUnit divisor) / 2 ^ 64 =
      divisor * leadingUnit divisor / 2 ^ 64

instance (dividend divisor : ℕ) : Decidable (LosesWord dividend divisor) :=
  inferInstanceAs (Decidable (_ ∧ _))

/-- By induction on the words: what is left of those before the last one is exact, and the last one
is put behind it. -/
theorem reduceWords_eq_mod {divisor words dividend : ℕ} (hdivisor : 2 ^ 64 ≤ divisor)
    (hdividend : dividend < 2 ^ (32 * words))
    (h : ∀ k < words, 0 < k → dividend / 2 ^ (32 * k) % divisor / 2 ^ 64 ≠ divisor / 2 ^ 64) :
    reduceWords divisor words dividend = dividend % divisor := by
  induction words generalizing dividend with
  | zero =>
    have hzero : dividend = 0 := by omega
    rw [hzero, Nat.zero_mod]
    rfl
  | succ words ih =>
    have hrest : reduceWords divisor words (dividend / 2 ^ 32) = dividend / 2 ^ 32 % divisor := by
      apply ih
      · rw [Nat.div_lt_iff_lt_mul (by decide), ← Nat.pow_add]
        exact hdividend
      · intro k hk hpos
        rw [Nat.div_div_eq_div_mul, ← Nat.pow_add, Nat.add_comm, ← Nat.mul_succ]
        exact h (k + 1) (Nat.succ_lt_succ hk) k.succ_pos
    have hlead : dividend / 2 ^ 32 % divisor / 2 ^ 64 ≠ divisor / 2 ^ 64 := by
      cases words with
      | zero =>
        -- in front of the first word nothing is left
        have hnone : dividend / 2 ^ 32 = 0 := Nat.div_eq_of_lt hdividend
        rw [hnone, Nat.zero_mod, Nat.zero_div]
        exact Nat.ne_of_lt (Nat.div_pos hdivisor (by decide))
      | succ words => exact h 1 (by omega) (by decide)
    rw [reduceWords, hrest, reduceWord_of_ne _ hlead]
    calc (dividend / 2 ^ 32 % divisor * 2 ^ 32 + dividend % 2 ^ 32) % divisor
        = (dividend / 2 ^ 32 * 2 ^ 32 + dividend % 2 ^ 32) % divisor := by
          rw [Nat.add_mod, Nat.mod_mul_mod, ← Nat.add_mod]
      _ = dividend % divisor := by rw [Nat.div_add_mod']

theorem leadingUnit_pos (divisor : ℕ) : 0 < leadingUnit divisor := Nat.pow_pos (by decide)

theorem reduce_of_lt {dividend divisor : ℕ} (h : divisor < 2 ^ 64) :
    reduce dividend divisor = dividend % divisor := if_pos h

theorem reduce_of_le {dividend divisor : ℕ} (h : 2 ^ 64 ≤ divisor) :
    reduce dividend divisor =
      reduceWords (divisor * leadingUnit divisor) 7 (dividend * leadingUnit divisor) /
        leadingUnit divisor := if_neg (Nat.not_lt_of_le h)

/-- A remainder that loses no word is exact. -/
theorem reduce_eq_mod {dividend divisor : ℕ} (hdividend : dividend < 2 ^ 96 * 10 ^ 28)
    (h : ¬LosesWord dividend divisor) : reduce dividend divisor = dividend % divisor := by
  rcases Nat.lt_or_ge divisor (2 ^ 64) with hshort | hlong
  · exact reduce_of_lt hshort
  · have hshifted : 2 ^ 64 ≤ divisor * leadingUnit divisor :=
      Nat.le_trans hlong (Nat.le_mul_of_pos_right divisor (leadingUnit_pos divisor))
    have hunit : leadingUnit divisor ≤ 2 ^ 31 := by
      have hlog : 64 ≤ divisor.log2 := (Nat.le_log2 (by omega)).mpr hlong
      exact Nat.pow_le_pow_right (by decide) (by omega)
    have hwords : dividend * leadingUnit divisor < 2 ^ (32 * 7) := by
      have hle := Nat.mul_le_mul (Nat.le_of_lt hdividend) hunit
      omega
    have hmod := reduceWords_eq_mod hshifted hwords fun k hk hpos hlead =>
      h ⟨hlong, k, hk, hpos, hlead⟩
    rw [reduce_of_le hlong, hmod, Nat.mul_mod_mul_right,
      Nat.mul_div_cancel _ (leadingUnit_pos divisor)]

/-- Any remainder stays below the divisor. -/
theorem reduce_lt {divisor : ℕ} (h : 0 < divisor) (dividend : ℕ) :
    reduce dividend divisor < divisor := by
  rcases Nat.lt_or_ge divisor (2 ^ 64) with hshort | hlong
  · rw [reduce_of_lt hshort]
    exact Nat.mod_lt dividend h
  · rw [reduce_of_le hlong, Nat.div_lt_iff_lt_mul (leadingUnit_pos divisor)]
    exact reduceWords_lt (Nat.mul_pos h (leadingUnit_pos divisor)) 7 _

/-- A divisor of no more than 64 bits needs no words. -/
theorem not_losesWord_of_lt (dividend : ℕ) {divisor : ℕ} (h : divisor < 2 ^ 64) :
    ¬LosesWord dividend divisor := fun hloses => Nat.not_le_of_lt h hloses.1

end TypedExpr.Decimal
