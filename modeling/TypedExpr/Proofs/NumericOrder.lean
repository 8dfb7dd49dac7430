import Mathlib.Algebra.Order.Field.Basic
import Mathlib.Algebra.Order.Field.Rat
import Mathlib.Data.Rat.Cast.Order
import Mathlib.Order.Compare
import TypedExpr.Capability.Comparison
import TypedExpr.Standard

/-!
# The order of numbers

A numeric value stands for a rational number: an integer for itself, a decimal for its signed
coefficient over the power of ten that its scale says. Comparison is the order of these numbers. It
does not look at how a number is written: at which scale, as an integer or as a decimal, and with
which sign if it is zero.
-/

namespace TypedExpr

namespace Decimal

/-- The rational number that a decimal stands for. -/
def toRat (d : Decimal) : ℚ := d.signed / (10 ^ d.scale : ℕ)

theorem tenPow_pos (scale : ℕ) : (0 : ℚ) < (10 ^ scale : ℕ) :=
  Nat.cast_pos.mpr (Nat.pow_pos (by decide))

theorem toRat_of_scale_eq_zero {d : Decimal} (h : d.scale = 0) : d.toRat = d.signed := by
  rw [toRat, h, Nat.pow_zero, Nat.cast_one, div_one]

theorem toRat_ofInt64 (i : Int64) : (ofInt64 i).toRat = i.toInt := by
  rw [toRat_of_scale_eq_zero (scale_ofInt64 i), signed_ofInt64]

theorem toRat_lt_iff {a b : Decimal} :
    a.toRat < b.toRat ↔ a.signed * 10 ^ b.scale < b.signed * 10 ^ a.scale := by
  rw [toRat, toRat, div_lt_div_iff₀ (tenPow_pos _) (tenPow_pos _)]
  exact_mod_cast Iff.rfl

theorem toRat_eq_iff {a b : Decimal} :
    a.toRat = b.toRat ↔ a.signed * 10 ^ b.scale = b.signed * 10 ^ a.scale := by
  rw [toRat, toRat, div_eq_div_iff (tenPow_pos _).ne' (tenPow_pos _).ne']
  exact_mod_cast Iff.rfl

/-- Decimals are compared at a common scale, and so as numbers. -/
theorem compare_compares (a b : Decimal) : (a.compare b).Compares a.toRat b.toRat := by
  cases h : a.compare b with
  | lt => exact toRat_lt_iff.mpr (Int.compare_eq_lt.mp h)
  | eq => exact toRat_eq_iff.mpr (Int.compare_eq_eq.mp h)
  | gt => exact toRat_lt_iff.mpr (Int.compare_eq_gt.mp h)

theorem compare_ofInt64 (i j : Int64) :
    (ofInt64 i).compare (ofInt64 j) = Ord.compare i.toInt j.toInt := by
  rw [Decimal.compare, signed_ofInt64, signed_ofInt64, scale_ofInt64, scale_ofInt64, Int.pow_zero,
    Int.mul_one, Int.mul_one]

end Decimal

/-! ## Numeric values -/

/-- A numeric value. -/
inductive Number where
  | integer (i : Int64)
  | decimal (d : Decimal)

namespace Number

def value : Number → Value
  | integer i => .integer i
  | decimal d => .decimal d

/-- The number as a decimal, as which it counts beside decimals. -/
def toDecimal : Number → Decimal
  | integer i => .ofInt64 i
  | decimal d => d

/-- The rational number that the value stands for. -/
def toRat : Number → ℚ
  | integer i => i.toInt
  | decimal d => d.toRat

theorem toRat_toDecimal (x : Number) : x.toDecimal.toRat = x.toRat := by
  cases x with
  | integer i => exact Decimal.toRat_ofInt64 i
  | decimal d => rfl

theorem isNumeric_value (x : Number) : x.value.isNumeric = true := by
  cases x <;> rfl

/-- Two integers are compared directly, to the same effect. -/
theorem numericOrder?_value (x y : Number) :
    x.value.numericOrder? y.value = some (x.toDecimal.compare y.toDecimal) := by
  cases x with
  | integer i =>
    cases y with
    | integer j => exact congrArg some (Decimal.compare_ofInt64 i j).symm
    | decimal e => rfl
  | decimal d => cases y <;> rfl

end Number

/-! ## Comparison -/

namespace ComparisonOperator

/-- What the operator says of two rational numbers. -/
def Holds (op : ComparisonOperator) (x y : ℚ) : Prop :=
  match op with
  | equal => x = y
  | notEqual => x ≠ y
  | greater => x > y
  | greaterOrEqual => x ≥ y
  | lower => x < y
  | lowerOrEqual => x ≤ y

instance (op : ComparisonOperator) (x y : ℚ) : Decidable (op.Holds x y) :=
  match op with
  | equal => inferInstanceAs (Decidable (x = y))
  | notEqual => inferInstanceAs (Decidable (x ≠ y))
  | greater => inferInstanceAs (Decidable (x > y))
  | greaterOrEqual => inferInstanceAs (Decidable (x ≥ y))
  | lower => inferInstanceAs (Decidable (x < y))
  | lowerOrEqual => inferInstanceAs (Decidable (x ≤ y))

theorem test_iff_holds (op : ComparisonOperator) {o : Ordering} {x y : ℚ} (h : o.Compares x y) :
    op.test o = true ↔ op.Holds x y := by
  cases op with
  | equal => exact beq_iff_eq.trans h.eq_eq
  | notEqual => exact bne_iff_ne.trans h.eq_eq.not
  | greater => exact beq_iff_eq.trans h.eq_gt
  | greaterOrEqual => exact bne_iff_ne.trans h.ne_lt
  | lower => exact beq_iff_eq.trans h.eq_lt
  | lowerOrEqual => exact bne_iff_ne.trans h.ne_gt

end ComparisonOperator

namespace ComparisonRule

variable (env : Environment) (ctx : Context) (leftType rightType : TypeDecl)

theorem numeric_eq_ok (x y : Number) (op : ComparisonOperator) :
    numeric.compare env ctx leftType rightType x.value y.value op =
      .ok (some (decide (op.Holds x.toRat y.toRat))) := by
  show numbers x.value y.value op = _
  have hcompares := x.toDecimal.compare_compares y.toDecimal
  rw [x.toRat_toDecimal, y.toRat_toDecimal] at hcompares
  have htest : op.test (x.toDecimal.compare y.toDecimal) = decide (op.Holds x.toRat y.toRat) := by
    rw [Bool.eq_iff_iff, op.test_iff_holds hcompares, decide_eq_true_iff]
  rw [numbers, if_pos x.isNumeric_value, x.numericOrder?_value y, ← htest]

theorem numeric_equal {x y : Number} (h : x.toRat = y.toRat) :
    numeric.compare env ctx leftType rightType x.value y.value .equal = .ok (some true) := by
  have hequal : ComparisonOperator.equal.Holds x.toRat y.toRat := h
  rw [numeric_eq_ok, decide_eq_true hequal]

/-- **The order of numbers.** Any two numeric values are compared as the rational numbers that they
stand for, and the answer is the same for all values that stand for them. -/
theorem numbers_in_order (x y : Number) (op : ComparisonOperator) :
    numeric.compare env ctx leftType rightType x.value y.value op =
        .ok (some (decide (op.Holds x.toRat y.toRat))) ∧
      (x.toRat = y.toRat →
        numeric.compare env ctx leftType rightType x.value y.value .equal = .ok (some true)) ∧
      ∀ x' y' : Number, x'.toRat = x.toRat → y'.toRat = y.toRat →
        numeric.compare env ctx leftType rightType x'.value y'.value op =
          numeric.compare env ctx leftType rightType x.value y.value op := by
  refine ⟨numeric_eq_ok env ctx leftType rightType x y op,
    numeric_equal env ctx leftType rightType, fun x' y' hx hy => ?_⟩
  rw [numeric_eq_ok, numeric_eq_ok, hx, hy]

/-- Minus zero with 20 places. -/
def minusZero : Decimal := { Decimal.zero.neg with scale := 20, scale_le := by decide }

/-- The greatest coefficient, with one place. -/
def greatestTenth : Decimal := ⟨false, 2 ^ 96 - 1, 1, by decide, by decide⟩

/-- One with three places. -/
def longOne : Decimal := { Decimal.ofInt64 1000 with scale := 3, scale_le := by decide }

/-- Minus zero is zero, and a one of three places is the integer one, also beside a number that has no
coefficient with so many places. -/
theorem minusZero_in_order :
    (Number.decimal minusZero).toRat = (Number.integer 0).toRat ∧
      (Number.decimal longOne).toRat = (Number.integer 1).toRat ∧
      numeric.compare .utc .empty Standard.decimal Standard.integer (.decimal minusZero)
        (.integer 0) .equal = .ok (some true) ∧
      numeric.compare .utc .empty Standard.decimal Standard.decimal (.decimal longOne)
          (.decimal greatestTenth) .lower =
        numeric.compare .utc .empty Standard.decimal Standard.decimal (.integer 1)
          (.decimal greatestTenth) .lower := by
  have hzero : (Number.decimal minusZero).toRat = (Number.integer 0).toRat := by
    rw [← Number.toRat_toDecimal, ← Number.toRat_toDecimal]
    exact Decimal.toRat_eq_iff.mpr (by decide)
  have hone : (Number.decimal longOne).toRat = (Number.integer 1).toRat := by
    rw [← Number.toRat_toDecimal, ← Number.toRat_toDecimal]
    exact Decimal.toRat_eq_iff.mpr (by decide)
  exact ⟨hzero, hone,
    (numbers_in_order .utc .empty _ _ (.decimal minusZero) (.integer 0) .equal).2.1 hzero,
    (numbers_in_order .utc .empty _ _ (.integer 1) (.decimal greatestTenth) .lower).2.2
      (.decimal longOne) (.decimal greatestTenth) hone rfl⟩

end ComparisonRule

end TypedExpr
