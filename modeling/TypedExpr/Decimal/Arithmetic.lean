import TypedExpr.Decimal.Rounding

/-!
# Decimal arithmetic

Sums, products and quotients are the exact result, rounded once; a remainder is found by long
division in words. `none` is a result that is too large for 96 bits even without places. Divisors
are not zero: the callers see to that.

`add`, `sub`, `mul`, `div` and `rem` stand for the checked operations of the package, which yield
nothing where the unchecked ones would overflow; `normalize` stands for the removal of zeros behind
the point.
-/

namespace TypedExpr.Decimal

/-- The sum, at the larger of the two scales if it fits. A zero gives way to the other operand. -/
def add (a b : Decimal) : Option Decimal :=
  if a.isZero then some b
  else if b.isZero then some a
  else
    let scale := max a.scale b.scale
    -- both operands in units of the last place
    let sum := a.signed * 10 ^ (scale - a.scale) + b.signed * 10 ^ (scale - b.scale)
    ofRatio? (decide (sum < 0)) sum.natAbs (10 ^ scale) scale

/-- The difference, at the larger of the two scales if it fits. -/
def sub (a b : Decimal) : Option Decimal :=
  if b.isZero then add a b else add a b.neg

/-- Whether the coefficient fits 32 bits. -/
def isShort (d : Decimal) : Bool := d.coefficient < 2 ^ 32

/-- The same number; a zero loses its sign. -/
def unsignZero (d : Decimal) : Decimal := { d with negative := d.negative && !d.isZero }

theorem signed_unsignZero (d : Decimal) : d.unsignZero.signed = d.signed := by
  unfold signed unsignZero isZero
  cases d.negative with
  | false => rfl
  | true =>
    by_cases hzero : d.coefficient = 0
    · simp only [hzero]
      rfl
    · simp only [beq_eq_false_iff_ne.mpr hzero]
      rfl

/-- The product, at the sum of the scales if it fits. The product with a zero is a plain zero, and so
is a product of short coefficients more than 19 places behind the last one; any other product that
rounds to zero has 28 places, and a sign unless both coefficients are short. -/
def mul (a b : Decimal) : Option Decimal :=
  let scale := a.scale + b.scale
  let short := a.isShort && b.isShort
  if a.isZero || b.isZero || short && decide (28 + 19 < scale) then some zero
  else
    let product :=
      ofRatio? (a.negative != b.negative) (a.coefficient * b.coefficient) (10 ^ scale) scale
    if short then product.map unsignZero else product

/-- Drops zeros at the end of a coefficient as long as there are places. -/
def stripZeros (coefficient : Nat) : Nat → Nat × Nat
  | 0 => (coefficient, 0)
  | scale + 1 =>
    if coefficient % 10 = 0 then stripZeros (coefficient / 10) scale else (coefficient, scale + 1)

theorem stripZeros_le (coefficient scale : Nat) :
    (stripZeros coefficient scale).1 ≤ coefficient ∧ (stripZeros coefficient scale).2 ≤ scale := by
  induction scale generalizing coefficient with
  | zero => simp [stripZeros]
  | succ scale ih =>
    unfold stripZeros
    split
    · have := ih (coefficient / 10)
      omega
    · simp

/-- The same number in lowest form: no zeros at the end of its places, and zero without a sign. -/
def normalize (d : Decimal) : Decimal :=
  if d.isZero then zero
  else
    { negative := d.negative
      coefficient := (stripZeros d.coefficient d.scale).1
      scale := (stripZeros d.coefficient d.scale).2
      coefficient_lt := Nat.lt_of_le_of_lt (stripZeros_le ..).1 d.coefficient_lt
      scale_le := Nat.le_trans (stripZeros_le ..).2 d.scale_le }

/-- The quotient with as many places as fit, in lowest form. -/
def div (a b : Decimal) : Option Decimal :=
  (ofRatio? (a.negative != b.negative) (a.coefficient * 10 ^ b.scale)
    (b.coefficient * 10 ^ a.scale) 28).map normalize

/-- One step of long division in words of 32 bits: the remainder so far is followed by the next word
of the dividend. The divisor has three words, and its leading bit is set. The next word of the
quotient is estimated from the leading words; when these are equal the estimate does not fit a word,
and the leading word of the remainder is lost. -/
def reduceWord (divisor remainder word : Nat) : Nat :=
  let next := remainder * 2 ^ 32 + word
  if remainder / 2 ^ 64 = divisor / 2 ^ 64 then next % 2 ^ 96 % divisor else next % divisor

theorem reduceWord_of_ne {divisor remainder : Nat} (word : Nat)
    (h : remainder / 2 ^ 64 ≠ divisor / 2 ^ 64) :
    reduceWord divisor remainder word = (remainder * 2 ^ 32 + word) % divisor :=
  if_neg h

theorem reduceWord_lt {divisor : Nat} (h : 0 < divisor) (remainder word : Nat) :
    reduceWord divisor remainder word < divisor := by
  unfold reduceWord
  split <;> exact Nat.mod_lt _ h

/-- The remainder of a dividend of so many words, taken from the highest on. -/
def reduceWords (divisor : Nat) : Nat → Nat → Nat
  | 0, _ => 0
  | words + 1, dividend =>
    reduceWord divisor (reduceWords divisor words (dividend / 2 ^ 32)) (dividend % 2 ^ 32)

theorem reduceWords_lt {divisor : Nat} (h : 0 < divisor) (words dividend : Nat) :
    reduceWords divisor words dividend < divisor := by
  cases words with
  | zero => exact h
  | succ words => exact reduceWord_lt h ..

/-- The remainder of coefficients brought to one scale. A divisor of more than 64 bits goes through
the words of the dividend, after both are shifted so far that its leading bit is set. -/
def reduce (dividend divisor : Nat) : Nat :=
  if divisor < 2 ^ 64 then dividend % divisor
  else
    let unit := 2 ^ (95 - divisor.log2)
    -- the dividend is below 2^96 · 10^28, and the unit at most 2^31: seven words
    reduceWords (divisor * unit) 7 (dividend * unit) / unit

/-- The remainder of the division toward zero, at the larger of the two scales; it has the sign of
the dividend. A dividend below the divisor is the remainder as it stands. -/
def rem (a b : Decimal) : Option Decimal :=
  let scale := max a.scale b.scale
  let dividend := a.coefficient * 10 ^ (scale - a.scale)
  let divisor := b.coefficient * 10 ^ (scale - b.scale)
  if dividend = 0 ∨ dividend = divisor then some zero
  else if dividend < divisor then some a
  else ofParts? a.negative (reduce dividend divisor) scale

end TypedExpr.Decimal
