import TypedExpr.Decimal.Basic

/-!
# Rounding to a decimal

A quotient of natural numbers becomes a decimal with as many places as its coefficient has room for,
rounded to the nearest with halves to the even neighbour. This is how the operations of `Decimal`
fit a result into 96 bits and 28 places.
-/

namespace TypedExpr

/-- The whole number nearest to a quotient; a half goes to the even neighbour. -/
def halfEven (num den : Nat) : Nat :=
  let q := num / den
  let twice := 2 * (num % den)
  if twice < den then q
  else if den < twice then q + 1
  else if q % 2 = 0 then q else q + 1

/-- Exact quotients are not rounded. -/
theorem halfEven_mul_right (n den : Nat) (h : 0 < den) : halfEven (n * den) den = n := by
  simp [halfEven, Nat.mul_div_cancel n h, h]

namespace Decimal

/-- The decimal nearest to ±num/den with the most places, up to the given number, at which its
coefficient stays below 2^96; none if even the whole number is too large. A zero keeps the sign. -/
def ofRatio? (negative : Bool) (num den : Nat) : Nat → Option Decimal
  | 0 => ofFields? negative (halfEven num den) 0
  | places + 1 =>
    match ofFields? negative (halfEven (num * 10 ^ (places + 1)) den) (places + 1) with
    | some d => some d
    | none => ofRatio? negative num den places

end Decimal

end TypedExpr
