import TypedExpr.Binary64.Shortest
import TypedExpr.Decimal.Arithmetic

/-!
# Decimals and binary floating point

A decimal as the floating point number near it, and a floating point number as a decimal with the 15
or 16 digits that it is good for. The second stands for the documented conversion that rounds to the
digits a floating point number guarantees, not for the one that retains the excess bits.
-/

namespace TypedExpr.Decimal

/-- Whole part and fraction are converted apart, and their sum is rounded to the decimal's places;
decimals without places are converted directly. -/
def toFloat (d : Decimal) : Float :=
  if d.scale = 0 then
    let f := Float.ofNat d.coefficient
    if d.negative && d.coefficient != 0 then -f else f
  else
    let unit := 10 ^ d.scale
    -- a fraction that vanishes leaves the whole part as it is
    let whole := Float.ofNat (d.coefficient / unit)
    let fraction := Float.ofNat (d.coefficient % unit) / Float.ofNat unit
    let f :=
      if fraction == 0 then whole
      else ((whole + fraction) * Float.ofNat unit).round / Float.ofNat unit
    if d.negative then -f else f

/-- Takes factors 1/2 into n / 10^places: halves n, or multiplies it by 5 and adds a place, as long as
there is room; without room the last bit is lost. -/
def takeHalves : Nat → Nat → Nat → Nat × Nat
  | 0, n, places => (n, places)
  | k + 1, n, places =>
    if n % 2 = 0 then takeHalves k (n / 2) places
    else if n * 5 < 2 ^ 96 then takeHalves k (n * 5) (places + 1)
    else takeHalves k (n / 2) places

/-- Drops the last digit, rounding halves up. -/
def dropDigit (n : Nat) : Nat := n / 10 + if 5 ≤ n % 10 then 1 else 0

/-- Drops places beyond the 28th; a number that vanishes has no places left. -/
def dropPlaces : Nat → Nat → Nat → Nat × Nat
  | 0, n, places => (n, places)
  | fuel + 1, n, places =>
    if places ≤ 28 then (n, places)
    else if n / 10 = 0 then (n / 10, 0)
    else dropPlaces fuel (dropDigit n) (places - 1)

/-- Drops places as long as the number is wider than the 52 bits of a fraction field. -/
def dropExcess : Nat → Nat → Nat × Nat
  | n, 0 => (n, 0)
  | n, places + 1 => if n < 2 ^ 52 then (n, places + 1) else dropExcess (dropDigit n) places

/-- The decimal of a finite number: whole numbers as they are, and others without the digits that
their precision does not carry. -/
def ofFloat? (x : Float) : Option Decimal := do
  let p ← Binary64.parts? x.toBits
  if p.significand = 0 then return { zero with negative := p.negative }
  if 0 < p.exponent then ofParts? p.negative (p.significand * 2 ^ p.exponent.toNat) 0
  else
    let (n, places) := takeHalves p.exponent.natAbs p.significand 0
    let (n, places) := dropPlaces places n places
    let (n, places) := dropExcess n places
    let (n, places) := stripZeros n places
    ofParts? p.negative n places

end TypedExpr.Decimal
