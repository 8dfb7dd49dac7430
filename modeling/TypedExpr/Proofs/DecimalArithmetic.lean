import Mathlib.Algebra.Order.Ring.Abs
import Mathlib.Data.Rat.Floor
import TypedExpr.Proofs.IntegerArithmetic

/-!
# Decimal arithmetic

Where one of two numbers is a decimal, sums, differences and products are exact as long as their
coefficients fit, and there always is a remainder. It is the one of the division toward zero, unless
long division loses a word; so equal divisors written at different scales can leave different
remainders.
-/

namespace TypedExpr

open Decimal

/-! ## Division toward zero -/

/-- The whole number next to a rational number on the side of zero. -/
def truncate (q : ℚ) : ℤ := if q < 0 then ⌈q⌉ else ⌊q⌋

theorem truncate_neg (q : ℚ) : truncate (-q) = -truncate q := by
  unfold truncate
  rcases lt_trichotomy q 0 with h | rfl | h
  · rw [if_pos h, if_neg (by linarith), Int.floor_neg]
  · simp
  · rw [if_neg h.not_gt, if_pos (by linarith), Int.ceil_neg]

theorem truncate_natCast_div (m n : ℕ) : truncate (m / n) = (m / n : ℕ) := by
  have hnonneg : (0 : ℚ) ≤ m / n := div_nonneg m.cast_nonneg n.cast_nonneg
  rw [truncate, if_neg hnonneg.not_gt, Rat.floor_natCast_div_natCast]
  rfl

/-- The quotient of integers is truncated by the division that rounds toward zero. -/
theorem truncate_intCast_div (m n : ℤ) : truncate (m / n) = m.tdiv n := by
  obtain ⟨a, rfl | rfl⟩ := m.eq_nat_or_neg <;> obtain ⟨b, rfl | rfl⟩ := n.eq_nat_or_neg <;>
    simp [neg_div, div_neg, truncate_neg, truncate_natCast_div, Int.neg_tdiv, Int.tdiv_neg]

namespace Decimal

/-- The remainder of the units is the remainder of the numbers. -/
theorem tmod_unitsAt (a b : Decimal) :
    (((a.unitsAt (max a.scale b.scale)).tmod (b.unitsAt (max a.scale b.scale)) : ℤ) : ℚ) /
        (10 ^ max a.scale b.scale : ℕ) =
      a.toRat - b.toRat * truncate (a.toRat / b.toRat) := by
  rw [toRat_eq_unitsAt (Nat.le_max_left a.scale b.scale),
    toRat_eq_unitsAt (Nat.le_max_right a.scale b.scale),
    div_div_div_cancel_right₀ (tenPow_pos _).ne', truncate_intCast_div, Int.tmod_def]
  push_cast
  ring

end Decimal

/-! ## Results -/

/-- Whether a number is a decimal. -/
def Number.IsDecimal : Number → Prop
  | integer _ => False
  | decimal _ => True

/-- Whether an outcome is a decimal of this value. -/
def Outcome.YieldsDecimal (x : Outcome Value) (q : ℚ) : Prop :=
  ∃ d, x = .ok (.decimal d) ∧ d.toRat = q

namespace ArithmeticRule

theorem fitsScale_add_iff {a b : Decimal} :
    FitsScale (a.toRat + b.toRat) (max a.scale b.scale) ↔
      (a.unitsAt (max a.scale b.scale) + b.unitsAt (max a.scale b.scale)).natAbs < 2 ^ 96 := by
  rw [toRat_eq_unitsAt (Nat.le_max_left a.scale b.scale),
    toRat_eq_unitsAt (Nat.le_max_right a.scale b.scale), ← add_div, ← Int.cast_add, fitsScale_iff]

theorem fitsScale_sub_iff {a b : Decimal} :
    FitsScale (a.toRat - b.toRat) (max a.scale b.scale) ↔
      (a.unitsAt (max a.scale b.scale) - b.unitsAt (max a.scale b.scale)).natAbs < 2 ^ 96 := by
  rw [toRat_eq_unitsAt (Nat.le_max_left a.scale b.scale),
    toRat_eq_unitsAt (Nat.le_max_right a.scale b.scale), ← sub_div, ← Int.cast_sub, fitsScale_iff]

theorem decimals_plus {a b : Decimal}
    (h : FitsScale (a.toRat + b.toRat) (max a.scale b.scale)) :
    (decimals a b .plus).YieldsDecimal (a.toRat + b.toRat) := by
  obtain ⟨d, hd, hvalue⟩ := add_exact (fitsScale_add_iff.mp h)
  exact ⟨d, by rw [decimals, hd]; rfl, hvalue⟩

theorem decimals_minus {a b : Decimal}
    (h : FitsScale (a.toRat - b.toRat) (max a.scale b.scale)) :
    (decimals a b .minus).YieldsDecimal (a.toRat - b.toRat) := by
  obtain ⟨d, hd, hvalue⟩ := sub_exact (fitsScale_sub_iff.mp h)
  exact ⟨d, by rw [decimals, hd]; rfl, hvalue⟩

theorem decimals_multiply {a b : Decimal} (hs : a.scale + b.scale ≤ 28)
    (hc : a.coefficient * b.coefficient < 2 ^ 96) :
    (decimals a b .multiply).YieldsDecimal (a.toRat * b.toRat) := by
  obtain ⟨d, hd, hvalue⟩ := mul_exact hc hs
  exact ⟨d, by rw [decimals, hd]; rfl, hvalue⟩

/-- There is a remainder for every divisor but zero. -/
theorem decimals_modulo {a b : Decimal} (hb : b.toRat ≠ 0) :
    ∃ d, decimals a b .modulo = .ok (.decimal d) ∧ |d.toRat| < |b.toRat| ∧
      (¬a.RemainderLosesWord b →
        d.toRat = a.toRat - b.toRat * truncate (a.toRat / b.toRat)) := by
  have hzero : ¬b.isZero = true := mt isZero_iff.mp hb
  obtain ⟨d, hd, hbelow, hexact⟩ := rem_eq_some (a := a) (Bool.eq_false_of_not_eq_true hzero)
  refine ⟨d, by rw [decimals, if_neg hzero, hd]; rfl, hbelow, fun h => ?_⟩
  rw [hexact h, tmod_unitsAt]

section

variable (env : Environment) (ctx : Context) (target leftType rightType : TypeDecl)

/-- **Decimal arithmetic is exact where it can be.** Where one operand is a decimal, a sum or difference
is exact if it has a coefficient at the larger of the two scales, and a product if the product of the
coefficients is one at the sum of the scales. Every divisor but zero leaves a remainder below it,
which is the exact one if no word is lost on the way; zero is no divisor. -/
theorem decimals_exact {x y : Number} (h : x.IsDecimal ∨ y.IsDecimal) :
    (FitsScale (x.toRat + y.toRat) (max x.toDecimal.scale y.toDecimal.scale) →
      (numeric.calculate env ctx target leftType rightType x.value y.value .plus).YieldsDecimal
        (x.toRat + y.toRat)) ∧
    (FitsScale (x.toRat - y.toRat) (max x.toDecimal.scale y.toDecimal.scale) →
      (numeric.calculate env ctx target leftType rightType x.value y.value .minus).YieldsDecimal
        (x.toRat - y.toRat)) ∧
    (x.toDecimal.scale + y.toDecimal.scale ≤ 28 →
      x.toDecimal.coefficient * y.toDecimal.coefficient < 2 ^ 96 →
      (numeric.calculate env ctx target leftType rightType x.value y.value .multiply).YieldsDecimal
        (x.toRat * y.toRat)) ∧
    (y.toRat ≠ 0 →
      ∃ d, numeric.calculate env ctx target leftType rightType x.value y.value .modulo =
          .ok (.decimal d) ∧ |d.toRat| < |y.toRat| ∧
        (¬x.toDecimal.RemainderLosesWord y.toDecimal →
          d.toRat = x.toRat - y.toRat * truncate (x.toRat / y.toRat))) ∧
    (y.toRat = 0 → ∀ op, op = .divide ∨ op = .modulo →
      numeric.calculate env ctx target leftType rightType x.value y.value op =
        .error .divisionByZero) := by
  -- beside a decimal an integer is taken as one too
  have hdecimals {op : ArithmeticOperator} (hop : op.isUnary = false) :
      numeric.calculate env ctx target leftType rightType x.value y.value op =
        decimals x.toDecimal y.toDecimal op := by
    rcases numeric_cases env ctx target leftType rightType x y hop with ⟨i, j, rfl, rfl⟩ | heq
    · exact absurd h (not_or.mpr ⟨id, id⟩)
    · exact heq
  rw [hdecimals rfl, hdecimals rfl, hdecimals rfl, hdecimals rfl, ← x.toRat_toDecimal,
    ← y.toRat_toDecimal]
  refine ⟨decimals_plus, decimals_minus, decimals_multiply, decimals_modulo, fun hzero op hop => ?_⟩
  rw [hdecimals (by rcases hop with rfl | rfl <;> rfl), decimals_eq_divisionByZero_iff]
  exact ⟨hop, isZero_iff.mpr hzero⟩

/-- Minus a fifth and a little more, with a coefficient of more than 64 bits. -/
def longFifth : Decimal := ⟨true, 2000000000000000000003, 22, by decide, by decide⟩

/-- Beside an integer and a coefficient of more than 64 bits all results are exact; and a zero with
places and a sign is no divisor. -/
theorem longFifth_exact :
    FitsScale ((Number.integer 7).toRat + (Number.decimal longFifth).toRat) 22 ∧
      FitsScale ((Number.integer 7).toRat - (Number.decimal longFifth).toRat) 22 ∧
      (Number.decimal longFifth).toRat ≠ 0 ∧
      (Number.decimal ComparisonRule.minusZero).toRat = 0 ∧
    (numeric.calculate .utc .empty Standard.decimal Standard.integer Standard.decimal (.integer 7)
        (.decimal longFifth) .plus).YieldsDecimal
      ((Number.integer 7).toRat + (Number.decimal longFifth).toRat) ∧
    (numeric.calculate .utc .empty Standard.decimal Standard.integer Standard.decimal (.integer 7)
        (.decimal longFifth) .minus).YieldsDecimal
      ((Number.integer 7).toRat - (Number.decimal longFifth).toRat) ∧
    (numeric.calculate .utc .empty Standard.decimal Standard.integer Standard.decimal (.integer 7)
        (.decimal longFifth) .multiply).YieldsDecimal
      ((Number.integer 7).toRat * (Number.decimal longFifth).toRat) ∧
    (numeric.calculate .utc .empty Standard.decimal Standard.integer Standard.decimal (.integer 7)
        (.decimal longFifth) .modulo).YieldsDecimal
      ((Number.integer 7).toRat - (Number.decimal longFifth).toRat *
        truncate ((Number.integer 7).toRat / (Number.decimal longFifth).toRat)) ∧
    numeric.calculate .utc .empty Standard.decimal Standard.integer Standard.decimal (.integer 7)
      (.decimal ComparisonRule.minusZero) .divide = .error .divisionByZero := by
  have hsum : FitsScale ((Number.integer 7).toRat + (Number.decimal longFifth).toRat) 22 := by
    rw [← (Number.integer 7).toRat_toDecimal]
    exact fitsScale_add_iff.mpr (by decide)
  have hdifference : FitsScale ((Number.integer 7).toRat - (Number.decimal longFifth).toRat) 22 := by
    rw [← (Number.integer 7).toRat_toDecimal]
    exact fitsScale_sub_iff.mpr (by decide)
  have hpresent : (Number.decimal longFifth).toRat ≠ 0 := mt isZero_iff.mpr (by decide)
  have hzero : (Number.decimal ComparisonRule.minusZero).toRat = 0 := isZero_iff.mp rfl
  obtain ⟨hplus, hminus, hmultiply, hmodulo, -⟩ := decimals_exact .utc .empty Standard.decimal
    Standard.integer Standard.decimal (x := .integer 7) (y := .decimal longFifth) (.inr trivial)
  obtain ⟨d, hd, -, hexact⟩ := hmodulo hpresent
  obtain ⟨-, -, -, -, hdivide⟩ := decimals_exact .utc .empty Standard.decimal Standard.integer
    Standard.decimal (x := .integer 7) (y := .decimal ComparisonRule.minusZero) (.inr trivial)
  exact ⟨hsum, hdifference, hpresent, hzero, hplus hsum, hminus hdifference,
    hmultiply (by decide) (by decide), ⟨d, hd, hexact (by decide)⟩, hdivide hzero _ (.inl rfl)⟩

/-- 2^69 - 3, which leaves 61 by 64. -/
def lostDividend : Decimal :=
  { Decimal.zero with coefficient := 590295810358705651709, coefficient_lt := by decide }

/-- -64 with 24 places. -/
def longDivisor : Decimal := ⟨true, 64 * 10 ^ 24, 24, by decide, by decide⟩

/-- An integer divisor leaves the exact remainder 61. The equal divisor with 24 places leaves another
one: there a word is lost. -/
theorem longDivisor_inexact :
    (Number.decimal longDivisor).toRat = (Number.integer (-64)).toRat ∧
      (Number.decimal longDivisor).toRat ≠ 0 ∧ lostDividend.RemainderLosesWord longDivisor ∧
      lostDividend.toRat - longDivisor.toRat * truncate (lostDividend.toRat / longDivisor.toRat) =
        61 ∧
      (numeric.calculate .utc .empty Standard.decimal Standard.decimal Standard.integer
        (.decimal lostDividend) (.integer (-64)) .modulo).YieldsDecimal 61 ∧
      ¬(numeric.calculate .utc .empty Standard.decimal Standard.decimal Standard.decimal
        (.decimal lostDividend) (.decimal longDivisor) .modulo).YieldsDecimal 61 := by
  have hexact : (Decimal.ofInt64 61).toRat = 61 := (toRat_ofInt64 61).trans (by norm_cast)
  refine ⟨?_, mt isZero_iff.mpr (by decide), by decide, ?_, ⟨.ofInt64 61, rfl, hexact⟩, ?_⟩
  · rw [← (Number.integer (-64)).toRat_toDecimal]
    exact toRat_eq_iff.mpr (by decide)
  · have hunits : (lostDividend.unitsAt 24).tmod (longDivisor.unitsAt 24) = 61 * 10 ^ 24 := by
      decide
    rw [← tmod_unitsAt]
    show (((lostDividend.unitsAt 24).tmod (longDivisor.unitsAt 24) : ℤ) : ℚ) / (10 ^ 24 : ℕ) = 61
    rw [hunits]
    norm_num
  · rintro ⟨d, hd, hvalue⟩
    rw [← hexact] at hvalue
    cases hd
    exact absurd (toRat_eq_iff.mp hvalue) (by decide)

end

end ArithmeticRule

end TypedExpr
