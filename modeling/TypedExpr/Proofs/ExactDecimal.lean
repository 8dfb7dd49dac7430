import TypedExpr.Proofs.LongDivision
import TypedExpr.Proofs.NumericOrder

/-!
# Exact decimal arithmetic

Decimal operations compute the exact result and round once, so a result that needs no rounding is the
exact one: a sum or difference whose coefficient fits at the larger of the two scales, a product whose
coefficient fits at the sum of the scales, and a remainder whose long division loses no word.
-/

namespace TypedExpr.Decimal

/-! ## Signs -/

/-- The integer of a sign and a magnitude. -/
def withSign (negative : Bool) (n : ℕ) : ℤ := if negative then -(n : ℤ) else n

theorem withSign_zero (negative : Bool) : withSign negative 0 = 0 := by
  cases negative <;> rfl

theorem withSign_and_ne_zero (negative : Bool) (n : ℕ) :
    withSign (negative && n != 0) n = withSign negative n := by
  cases n with
  | zero => rw [withSign_zero, withSign_zero]
  | succ n => cases negative <;> rfl

theorem withSign_natAbs (z : ℤ) : withSign (decide (z < 0)) z.natAbs = z := by
  unfold withSign
  by_cases h : z < 0
  · rw [decide_eq_true h, if_pos rfl]
    omega
  · rw [decide_eq_false h, if_neg Bool.false_ne_true]
    omega

theorem natAbs_withSign (negative : Bool) (n : ℕ) : (withSign negative n).natAbs = n := by
  unfold withSign
  split <;> omega

theorem withSign_mul (m n : Bool) (a b : ℕ) :
    withSign m a * withSign n b = withSign (m != n) (a * b) := by
  unfold withSign
  cases m <;> cases n <;> simp

theorem withSign_mul_natCast (negative : Bool) (n k : ℕ) :
    withSign negative (n * k) = withSign negative n * k := by
  unfold withSign
  split
  · rw [Nat.cast_mul, Int.neg_mul]
  · rw [Nat.cast_mul]

theorem withSign_div (m n : Bool) (a b : ℕ) :
    ((withSign m a : ℤ) : ℚ) / (withSign n b : ℤ) = (withSign (m != n) a : ℤ) / (b : ℕ) := by
  unfold withSign
  cases m <;> cases n <;> simp [neg_div, div_neg]

/-- Equal fractions are equal behind a sign. -/
theorem withSign_div_congr (negative : Bool) {a b c d : ℕ} (hb : b ≠ 0) (hd : d ≠ 0)
    (h : a * d = c * b) :
    ((withSign negative a : ℤ) : ℚ) / (b : ℕ) = (withSign negative c : ℤ) / (d : ℕ) := by
  have hsigned : withSign negative a * d = withSign negative c * b := by
    rw [← withSign_mul_natCast, ← withSign_mul_natCast, h]
  rw [div_eq_div_iff (Nat.cast_ne_zero.mpr hb) (Nat.cast_ne_zero.mpr hd)]
  exact_mod_cast hsigned

/-- The remainder of the division toward zero has the sign of the dividend. -/
theorem withSign_tmod (m n : Bool) (a b : ℕ) :
    (withSign m a).tmod (withSign n b) = withSign m (a % b) := by
  have hmod : (a : ℤ).tmod b = (a % b : ℕ) := rfl
  unfold withSign
  cases m <;> cases n <;> simp [Int.neg_tmod, Int.tmod_neg, ← hmod]

theorem natAbs_signed (d : Decimal) : d.signed.natAbs = d.coefficient :=
  natAbs_withSign d.negative d.coefficient

theorem signed_eq_zero_iff {d : Decimal} : d.signed = 0 ↔ d.isZero = true := by
  rw [← Int.natAbs_eq_zero, natAbs_signed, isZero, beq_iff_eq]

theorem isZero_iff {d : Decimal} : d.isZero = true ↔ d.toRat = 0 := by
  rw [← signed_eq_zero_iff, toRat, div_eq_zero_iff, Int.cast_eq_zero,
    or_iff_left (tenPow_pos _).ne']

theorem coefficient_mul_pos {d : Decimal} (h : d.isZero = false) (k : ℕ) :
    0 < d.coefficient * 10 ^ k :=
  Nat.mul_pos (Nat.pos_of_ne_zero (ne_of_beq_false h)) (Nat.pow_pos (by decide))

theorem toRat_zero : zero.toRat = 0 := isZero_iff.mp rfl

/-- Decimals other than zero are their scale and their signed coefficient. -/
theorem eq_of_signed {d e : Decimal} (hscale : d.scale = e.scale) (hsigned : d.signed = e.signed)
    (h : d.signed ≠ 0) : d = e := by
  have hc : d.coefficient = e.coefficient := by
    rw [← d.natAbs_signed, ← e.natAbs_signed, hsigned]
  have hn : d.negative = e.negative := by
    unfold signed at hsigned h
    cases hd : d.negative <;> cases he : e.negative <;> simp [hd, he] at hsigned h ⊢ <;> omega
  cases d
  cases e
  simp only [mk.injEq]
  exact ⟨hn, hc, hscale⟩

theorem signed_neg (d : Decimal) : d.neg.signed = -d.signed := by
  unfold signed neg
  cases d.negative <;> simp

theorem toRat_neg (d : Decimal) : d.neg.toRat = -d.toRat := by
  show (d.neg.signed : ℚ) / (10 ^ d.scale : ℕ) = -(d.signed / (10 ^ d.scale : ℕ))
  rw [signed_neg, Int.cast_neg, neg_div]

theorem toRat_unsignZero (d : Decimal) : d.unsignZero.toRat = d.toRat := by
  show (d.unsignZero.signed : ℚ) / (10 ^ d.scale : ℕ) = d.signed / (10 ^ d.scale : ℕ)
  rw [signed_unsignZero]

/-! ## Units -/

/-- The signed coefficient in units of a later place. -/
def unitsAt (d : Decimal) (scale : ℕ) : ℤ := d.signed * 10 ^ (scale - d.scale)

theorem unitsAt_eq (d : Decimal) (scale : ℕ) :
    d.unitsAt scale = withSign d.negative (d.coefficient * 10 ^ (scale - d.scale)) := by
  rw [withSign_mul_natCast, Int.natCast_pow]
  rfl

theorem natAbs_unitsAt (d : Decimal) (scale : ℕ) :
    (d.unitsAt scale).natAbs = d.coefficient * 10 ^ (scale - d.scale) := by
  rw [unitsAt_eq, natAbs_withSign]

theorem natAbs_unitsAt_lt (d : Decimal) (scale : ℕ) (h : scale ≤ 28) :
    (d.unitsAt scale).natAbs < 2 ^ 96 * 10 ^ 28 := by
  have hpow : 10 ^ (scale - d.scale) ≤ 10 ^ 28 := Nat.pow_le_pow_right (by decide) (by omega)
  rw [natAbs_unitsAt]
  exact Nat.mul_lt_mul_of_lt_of_le d.coefficient_lt hpow (by decide)

/-- At the larger of two scales one of the coefficients is as it was, so the smaller one fits. -/
theorem natAbs_unitsAt_lt_of_le (a b : Decimal)
    (h : (b.unitsAt (max a.scale b.scale)).natAbs ≤ (a.unitsAt (max a.scale b.scale)).natAbs) :
    (b.unitsAt (max a.scale b.scale)).natAbs < 2 ^ 96 := by
  rcases Nat.le_total a.scale b.scale with hle | hle
  · rw [Nat.max_eq_right hle, natAbs_unitsAt, Nat.sub_self, Nat.pow_zero, Nat.mul_one]
    exact b.coefficient_lt
  · apply Nat.lt_of_le_of_lt h
    rw [Nat.max_eq_left hle, natAbs_unitsAt, Nat.sub_self, Nat.pow_zero, Nat.mul_one]
    exact a.coefficient_lt

theorem unitsAt_zero (d : Decimal) : d.unitsAt 0 = d.signed := by
  rw [unitsAt, Nat.zero_sub, Int.pow_zero, Int.mul_one]

theorem unitsAt_neg (d : Decimal) (scale : ℕ) : d.neg.unitsAt scale = -d.unitsAt scale := by
  show d.neg.signed * 10 ^ (scale - d.scale) = -(d.signed * 10 ^ (scale - d.scale))
  rw [signed_neg, Int.neg_mul]

theorem toRat_eq_unitsAt {d : Decimal} {scale : ℕ} (h : d.scale ≤ scale) :
    d.toRat = d.unitsAt scale / (10 ^ scale : ℕ) := by
  have hpow : d.signed * 10 ^ scale = d.unitsAt scale * 10 ^ d.scale := by
    rw [unitsAt, Int.mul_assoc, ← Int.pow_add, Nat.sub_add_cancel h]
  rw [toRat, div_eq_div_iff (tenPow_pos _).ne' (tenPow_pos _).ne']
  exact_mod_cast hpow

theorem abs_withSign_div (negative : Bool) (n scale : ℕ) :
    |((withSign negative n : ℤ) : ℚ) / (10 ^ scale : ℕ)| = n / (10 ^ scale : ℕ) := by
  rw [abs_div, abs_of_pos (tenPow_pos scale), ← Int.cast_abs, Int.abs_eq_natAbs, natAbs_withSign,
    Int.cast_natCast]

theorem abs_toRat_eq_unitsAt {d : Decimal} {scale : ℕ} (h : d.scale ≤ scale) :
    |d.toRat| = (d.unitsAt scale).natAbs / (10 ^ scale : ℕ) := by
  rw [toRat_eq_unitsAt h, natAbs_unitsAt, unitsAt_eq, abs_withSign_div]

/-- Whether a number has a coefficient of 96 bits at a scale. -/
def FitsScale (q : ℚ) (scale : ℕ) : Prop := ∃ m : ℤ, m.natAbs < 2 ^ 96 ∧ q = m / (10 ^ scale : ℕ)

theorem fitsScale_iff {z : ℤ} {scale : ℕ} :
    FitsScale (z / (10 ^ scale : ℕ)) scale ↔ z.natAbs < 2 ^ 96 := by
  constructor
  · rintro ⟨m, hm, heq⟩
    rw [div_left_inj' (tenPow_pos scale).ne', Int.cast_inj] at heq
    rwa [heq]
  · exact fun h => ⟨z, h, rfl⟩

/-! ## Rounding -/

/-- A coefficient that fits is not rounded. -/
theorem ofRatio?_of_lt (negative : Bool) {coefficient scale : ℕ} (hc : coefficient < 2 ^ 96)
    (hs : scale ≤ 28) :
    ofRatio? negative coefficient (10 ^ scale) scale =
      some ⟨negative, coefficient, scale, hc, hs⟩ := by
  cases scale with
  | zero =>
    have hwhole := halfEven_mul_right coefficient 1 (by decide)
    rw [Nat.mul_one] at hwhole
    rw [ofRatio?, Nat.pow_zero, hwhole, ofFields?_of_lt hc hs]
  | succ scale =>
    rw [ofRatio?, halfEven_mul_right _ _ (Nat.pow_pos (by decide)), ofFields?_of_lt hc hs]

theorem ofRatio?_exact {z : ℤ} {scale : ℕ} (hz : z.natAbs < 2 ^ 96) (hs : scale ≤ 28) :
    ∃ d, ofRatio? (decide (z < 0)) z.natAbs (10 ^ scale) scale = some d ∧
      d.toRat = z / (10 ^ scale : ℕ) := by
  refine ⟨_, ofRatio?_of_lt _ hz hs, ?_⟩
  show ((withSign (decide (z < 0)) z.natAbs : ℤ) : ℚ) / (10 ^ scale : ℕ) = _
  rw [withSign_natAbs]

/-! ## Sums and differences -/

/-- A sum is exact if its coefficient fits at the larger of the two scales. -/
theorem add_exact {a b : Decimal}
    (h : (a.unitsAt (max a.scale b.scale) + b.unitsAt (max a.scale b.scale)).natAbs < 2 ^ 96) :
    ∃ d, a.add b = some d ∧ d.toRat = a.toRat + b.toRat := by
  unfold add
  by_cases ha : a.isZero = true
  · exact ⟨b, if_pos ha, by rw [isZero_iff.mp ha, zero_add]⟩
  · by_cases hb : b.isZero = true
    · exact ⟨a, by rw [if_neg ha, if_pos hb], by rw [isZero_iff.mp hb, add_zero]⟩
    · rw [if_neg ha, if_neg hb]
      obtain ⟨d, hd, hvalue⟩ := ofRatio?_exact h (max_le a.scale_le b.scale_le)
      refine ⟨d, hd, ?_⟩
      rw [hvalue, toRat_eq_unitsAt (Nat.le_max_left a.scale b.scale),
        toRat_eq_unitsAt (Nat.le_max_right a.scale b.scale), ← add_div, ← Int.cast_add]

/-- A difference is exact if its coefficient fits at the larger of the two scales. -/
theorem sub_exact {a b : Decimal}
    (h : (a.unitsAt (max a.scale b.scale) - b.unitsAt (max a.scale b.scale)).natAbs < 2 ^ 96) :
    ∃ d, a.sub b = some d ∧ d.toRat = a.toRat - b.toRat := by
  unfold sub
  by_cases hb : b.isZero = true
  · -- a zero is added with its own sign, which does not matter
    have hzero : b.unitsAt (max a.scale b.scale) = 0 := by
      rw [unitsAt, signed_eq_zero_iff.mpr hb, Int.zero_mul]
    rw [hzero, Int.sub_zero] at h
    obtain ⟨d, hd, hvalue⟩ := add_exact (a := a) (b := b) (by rwa [hzero, Int.add_zero])
    exact ⟨d, (if_pos hb).trans hd, by rw [hvalue, isZero_iff.mp hb, add_zero, sub_zero]⟩
  · rw [if_neg hb, sub_eq_add_neg, ← toRat_neg]
    apply add_exact
    show (a.unitsAt (max a.scale b.scale) + b.neg.unitsAt (max a.scale b.scale)).natAbs < 2 ^ 96
    rwa [unitsAt_neg, ← Int.sub_eq_add_neg]

/-! ## Products -/

theorem toRat_product {a b : Decimal} (hc : a.coefficient * b.coefficient < 2 ^ 96)
    (hs : a.scale + b.scale ≤ 28) :
    toRat ⟨a.negative != b.negative, a.coefficient * b.coefficient, a.scale + b.scale, hc, hs⟩ =
      a.toRat * b.toRat := by
  show ((withSign (a.negative != b.negative) (a.coefficient * b.coefficient) : ℤ) : ℚ) /
    (10 ^ (a.scale + b.scale) : ℕ) = _
  rw [← withSign_mul, Nat.pow_add, Nat.cast_mul, Int.cast_mul, ← div_mul_div_comm]
  rfl

/-- A product is exact if its coefficient fits at the sum of the scales. -/
theorem mul_exact {a b : Decimal} (hc : a.coefficient * b.coefficient < 2 ^ 96)
    (hs : a.scale + b.scale ≤ 28) : ∃ d, a.mul b = some d ∧ d.toRat = a.toRat * b.toRat := by
  -- there are too few places for a product to vanish behind the last one
  have hfew : decide (28 + 19 < a.scale + b.scale) = false := decide_eq_false (by omega)
  unfold mul
  simp only [hfew, Bool.and_false, Bool.or_false, Bool.or_eq_true]
  split
  next hzero =>
    refine ⟨zero, rfl, ?_⟩
    rw [toRat_zero]
    rcases hzero with ha | hb
    · rw [isZero_iff.mp ha, zero_mul]
    · rw [isZero_iff.mp hb, mul_zero]
  next hzero =>
    rw [ofRatio?_of_lt _ hc hs]
    split
    next hshort => exact ⟨_, rfl, (toRat_unsignZero _).trans (toRat_product hc hs)⟩
    next hlong => exact ⟨_, rfl, toRat_product hc hs⟩

/-! ## Remainders -/

/-- Whether the remainder of two decimals loses a word on the way, at the larger of the two scales. -/
def RemainderLosesWord (a b : Decimal) : Prop :=
  LosesWord (a.unitsAt (max a.scale b.scale)).natAbs (b.unitsAt (max a.scale b.scale)).natAbs

instance (a b : Decimal) : Decidable (a.RemainderLosesWord b) :=
  inferInstanceAs (Decidable (LosesWord _ _))

/-- The units of a remainder stay below those of the divisor, and so it always fits. They are the
exact ones unless a word is lost. -/
theorem rem_units {a b : Decimal} (hb : b.isZero = false) :
    ∃ d n, a.rem b = some d ∧
      d.toRat = (withSign a.negative n : ℤ) / (10 ^ max a.scale b.scale : ℕ) ∧
      n < (b.unitsAt (max a.scale b.scale)).natAbs ∧
      (¬a.RemainderLosesWord b → n =
        (a.unitsAt (max a.scale b.scale)).natAbs % (b.unitsAt (max a.scale b.scale)).natAbs) := by
  have hpos := coefficient_mul_pos hb (max a.scale b.scale - b.scale)
  have hscale : max a.scale b.scale ≤ 28 := max_le a.scale_le b.scale_le
  have hunits := toRat_eq_unitsAt (Nat.le_max_left a.scale b.scale)
  have hdividend := a.natAbs_unitsAt_lt (max a.scale b.scale) hscale
  have hfits := natAbs_unitsAt_lt_of_le a b
  rw [a.unitsAt_eq] at hunits
  unfold RemainderLosesWord rem
  simp only [natAbs_unitsAt] at hdividend hfits ⊢
  generalize a.coefficient * 10 ^ (max a.scale b.scale - a.scale) = dividend at *
  generalize b.coefficient * 10 ^ (max a.scale b.scale - b.scale) = divisor at *
  split
  next hnone =>
    have hmod : dividend % divisor = 0 := by
      rcases hnone with rfl | rfl
      · exact Nat.zero_mod divisor
      · exact Nat.mod_self dividend
    refine ⟨zero, 0, rfl, ?_, hpos, fun _ => hmod.symm⟩
    rw [toRat_zero, withSign_zero, Int.cast_zero, zero_div]
  next hsome =>
    split
    next hlt => exact ⟨a, dividend, rfl, hunits, hlt, fun _ => (Nat.mod_eq_of_lt hlt).symm⟩
    next hle =>
      have hbelow : reduce dividend divisor < divisor := reduce_lt hpos dividend
      have hc : reduce dividend divisor < 2 ^ 96 := hbelow.trans (hfits (Nat.le_of_not_lt hle))
      rw [ofParts?_of_lt hc hscale]
      refine ⟨_, reduce dividend divisor, rfl, ?_, hbelow, reduce_eq_mod hdividend⟩
      show ((withSign (a.negative && reduce dividend divisor != 0) (reduce dividend divisor) : ℤ) :
        ℚ) / (10 ^ max a.scale b.scale : ℕ) = _
      rw [withSign_and_ne_zero]

/-- Every divisor but zero leaves a remainder, which is exact if it loses no word. -/
theorem rem_eq_some {a b : Decimal} (hb : b.isZero = false) :
    ∃ d, a.rem b = some d ∧ |d.toRat| < |b.toRat| ∧
      (¬a.RemainderLosesWord b → d.toRat =
        ((a.unitsAt (max a.scale b.scale)).tmod (b.unitsAt (max a.scale b.scale)) : ℤ) /
          (10 ^ max a.scale b.scale : ℕ)) := by
  obtain ⟨d, n, hd, hvalue, hn, hexact⟩ := rem_units (a := a) hb
  refine ⟨d, hd, ?_, fun h => ?_⟩
  · rw [hvalue, abs_withSign_div]
    exact (div_lt_div_of_pos_right (Nat.cast_lt.mpr hn) (tenPow_pos _)).trans_eq
      (abs_toRat_eq_unitsAt (Nat.le_max_right a.scale b.scale)).symm
  · rw [hvalue, hexact h, natAbs_unitsAt, natAbs_unitsAt, a.unitsAt_eq, b.unitsAt_eq,
      withSign_tmod]

/-! ## Quotients -/

/-- The quotient of a zero is zero, without a sign. -/
theorem div_of_isZero {a b : Decimal} (ha : a.isZero = true) (hb : b.isZero = false) :
    a.div b = some zero := by
  have hround : halfEven (0 * 10 ^ 28) (b.coefficient * 10 ^ a.scale) = 0 := by
    have hexact := halfEven_mul_right 0 _ (coefficient_mul_pos hb a.scale)
    rwa [Nat.zero_mul] at hexact ⊢
  rw [div, eq_of_beq ha, Nat.zero_mul, ofRatio?, hround, ofFields?_of_lt (by decide) (by decide)]
  rfl

end TypedExpr.Decimal
