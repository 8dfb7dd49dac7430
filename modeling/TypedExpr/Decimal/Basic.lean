import TypedExpr.Word

/-!
# Decimal numbers

A decimal is a sign, a coefficient below 2^96 and a scale of at most 28: the number ±coefficient /
10^scale. The scale is part of the value (1.50 is written differently from 1.5), and zero may carry
a sign, but neither takes part in `compare`.

The modules on decimals stand for a package of fixed-width decimals, with the results that it
documents: a 96-bit integer scaled by a power of ten from 0 to 28, compared as a number. How the
package computes with words of 32 bits shows in remainders only, and is written out there.
-/

namespace TypedExpr

structure Decimal where
  negative : Bool
  coefficient : Nat
  scale : Nat
  coefficient_lt : coefficient < 2 ^ 96
  scale_le : scale ≤ 28
  deriving DecidableEq, Repr

namespace Decimal

/-- The decimal with these fields if they are in range. -/
def ofFields? (negative : Bool) (coefficient scale : Nat) : Option Decimal :=
  if h : coefficient < 2 ^ 96 ∧ scale ≤ 28 then some ⟨negative, coefficient, scale, h.1, h.2⟩
  else none

/-- The decimal of these parts if they are in range; a zero gets no sign. -/
def ofParts? (negative : Bool) (coefficient scale : Nat) : Option Decimal :=
  ofFields? (negative && coefficient != 0) coefficient scale

def zero : Decimal := ⟨false, 0, 0, by decide, by decide⟩

/-- A 64-bit integer at scale 0. -/
def ofInt64 (i : Int64) : Decimal where
  negative := decide (i.toInt < 0)
  coefficient := i.toInt.natAbs
  scale := 0
  coefficient_lt := by
    have := i.le_toInt
    have := i.toInt_lt
    omega
  scale_le := by decide

def isZero (d : Decimal) : Bool := d.coefficient == 0

/-- The coefficient with its sign. -/
def signed (d : Decimal) : Int := if d.negative then -(d.coefficient : Int) else d.coefficient

/-- The other sign, on zero too. -/
def neg (d : Decimal) : Decimal := { d with negative := !d.negative }

/-- The order of the numbers, whatever their scales and the signs of zeros. -/
def compare (a b : Decimal) : Ordering :=
  Ord.compare (a.signed * 10 ^ b.scale) (b.signed * 10 ^ a.scale)

/-- Whether two decimals are the same number. -/
def same (a b : Decimal) : Bool := a.compare b == .eq

theorem signed_ofInt64 (i : Int64) : (ofInt64 i).signed = i.toInt := by
  simp only [signed, ofInt64, decide_eq_true_eq]
  split <;> omega

theorem scale_ofInt64 (i : Int64) : (ofInt64 i).scale = 0 := rfl

theorem ofFields?_of_lt {negative : Bool} {coefficient scale : Nat}
    (hc : coefficient < 2 ^ 96) (hs : scale ≤ 28) :
    ofFields? negative coefficient scale = some ⟨negative, coefficient, scale, hc, hs⟩ :=
  dif_pos ⟨hc, hs⟩

theorem ofParts?_of_lt {negative : Bool} {coefficient scale : Nat}
    (hc : coefficient < 2 ^ 96) (hs : scale ≤ 28) :
    ofParts? negative coefficient scale =
      some ⟨negative && coefficient != 0, coefficient, scale, hc, hs⟩ :=
  dif_pos ⟨hc, hs⟩

end Decimal

end TypedExpr
