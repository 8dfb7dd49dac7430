import TypedExpr.Proofs.DecimalArithmetic

/-!
# Exact quotients

A quotient is rounded at the last of 28 places at which its coefficient fits. One that is a decimal
itself has its own places among them, so nothing is cut off, and it is exact. The zeros at the end are
dropped afterwards: a quotient is the one decimal in lowest form of its value.
-/

namespace TypedExpr

namespace Decimal

/-! ## Lowest form -/

/-- Whether a decimal has no zero at the end of its places; the only zero in lowest form is the plain
one. -/
def IsLowest (d : Decimal) : Prop :=
  (d.scale = 0 ∨ ¬10 ∣ d.coefficient) ∧ (d.isZero = true → d = zero)

theorem stripZeros_value (coefficient scale : ℕ) :
    (stripZeros coefficient scale).1 * 10 ^ scale =
      coefficient * 10 ^ (stripZeros coefficient scale).2 := by
  induction scale generalizing coefficient with
  | zero => rfl
  | succ scale ih =>
    rw [stripZeros]
    split
    next hzero =>
      have hten : coefficient / 10 * 10 = coefficient := by omega
      rw [Nat.pow_succ, ← Nat.mul_assoc, ih, Nat.mul_right_comm, hten]
    next => rfl

theorem stripZeros_lowest (coefficient scale : ℕ) :
    (stripZeros coefficient scale).2 = 0 ∨ ¬10 ∣ (stripZeros coefficient scale).1 := by
  induction scale generalizing coefficient with
  | zero => exact .inl rfl
  | succ scale ih =>
    rw [stripZeros]
    split
    next => exact ih _
    next hdigit => exact .inr (mt Nat.mod_eq_zero_of_dvd hdigit)

theorem toRat_normalize (d : Decimal) : d.normalize.toRat = d.toRat := by
  unfold normalize
  split
  next hzero => rw [toRat_zero, isZero_iff.mp hzero]
  next =>
    exact withSign_div_congr d.negative (Nat.pow_pos (by decide)).ne' (Nat.pow_pos (by decide)).ne'
      (stripZeros_value d.coefficient d.scale)

theorem normalize_isLowest (d : Decimal) : d.normalize.IsLowest := by
  by_cases hzero : d.isZero = true
  · rw [normalize, if_pos hzero]
    exact ⟨.inl rfl, fun _ => rfl⟩
  · constructor
    · rw [normalize, if_neg hzero]
      exact stripZeros_lowest d.coefficient d.scale
    · intro hnone
      rw [isZero_iff, toRat_normalize, ← isZero_iff] at hnone
      exact absurd hnone hzero

/-- With fewer places than another decimal of its value, a decimal has no digits for the last ones of
that, so they are zeros. -/
theorem IsLowest.scale_le_of_toRat_eq {d e : Decimal} (he : e.IsLowest) (h : d.toRat = e.toRat) :
    e.scale ≤ d.scale := by
  rcases he.1 with hnone | hdigit
  · omega
  · by_contra hlt
    apply hdigit
    have hunits : d.signed * 10 ^ e.scale = e.signed * 10 ^ d.scale := toRat_eq_iff.mp h
    have hsplit : e.scale = (e.scale - d.scale - 1) + 1 + d.scale := by omega
    rw [hsplit, Int.pow_add, ← Int.mul_assoc] at hunits
    have hpow : (10 : ℤ) ^ d.scale ≠ 0 := Int.pow_ne_zero (by decide)
    have hsigned := Int.eq_of_mul_eq_mul_right hpow hunits
    rw [← e.natAbs_signed, ← hsigned, Int.pow_succ, ← Int.mul_assoc, Int.natAbs_mul]
    exact Nat.dvd_mul_left 10 _

/-- A number has one decimal in lowest form. -/
theorem IsLowest.eq_of_toRat_eq {d e : Decimal} (hd : d.IsLowest) (he : e.IsLowest)
    (h : d.toRat = e.toRat) : d = e := by
  by_cases hzero : d.isZero = true
  · have hzero' : e.isZero = true := by rwa [isZero_iff, ← h, ← isZero_iff]
    rw [hd.2 hzero, he.2 hzero']
  · have hscale : d.scale = e.scale :=
      Nat.le_antisymm (hd.scale_le_of_toRat_eq h.symm) (he.scale_le_of_toRat_eq h)
    have hsigned : d.signed = e.signed := by
      have hunits := toRat_eq_iff.mp h
      rw [hscale] at hunits
      exact Int.eq_of_mul_eq_mul_right (Int.pow_ne_zero (by decide)) hunits
    exact eq_of_signed hscale hsigned (mt signed_eq_zero_iff.mp hzero)

/-! ## Exact division -/

/-- The first of the places at which an exact quotient fits leaves nothing to round. By induction on
the places: where the coefficient does not fit, there are more of them than the quotient needs. -/
theorem ofRatio?_of_mul_eq (negative : Bool) {num den m scale places : ℕ} (hden : 0 < den)
    (hm : m < 2 ^ 96) (h : num * 10 ^ scale = m * den) (hscale : scale ≤ places)
    (hplaces : places ≤ 28) :
    ∃ d, ofRatio? negative num den places = some d ∧ d.negative = negative ∧
      d.coefficient * den = num * 10 ^ d.scale := by
  induction places with
  | zero =>
    have hnum : num = m * den := by rwa [Nat.le_zero.mp hscale, Nat.pow_zero, Nat.mul_one] at h
    rw [ofRatio?, hnum, halfEven_mul_right m den hden, ofFields?_of_lt hm hplaces]
    exact ⟨_, rfl, rfl, (Nat.mul_one _).symm⟩
  | succ places ih =>
    have hexact : num * 10 ^ (places + 1) = m * 10 ^ (places + 1 - scale) * den := by
      rw [Nat.mul_right_comm, ← h, Nat.mul_assoc, ← Nat.pow_add, Nat.add_sub_cancel' hscale]
    rw [ofRatio?, hexact, halfEven_mul_right _ den hden]
    by_cases hfits : m * 10 ^ (places + 1 - scale) < 2 ^ 96
    · rw [ofFields?_of_lt hfits hplaces]
      exact ⟨_, rfl, rfl, hexact.symm⟩
    · have hfewer : scale ≤ places := by
        by_contra hlast
        have hnone : places + 1 - scale = 0 := by omega
        rw [hnone, Nat.pow_zero, Nat.mul_one] at hfits
        exact hfits hm
      rw [ofFields?, dif_neg fun hfields => hfits hfields.1]
      exact ih hfewer (by omega)

/-- The quotient of two decimals as one of whole numbers. -/
theorem toRat_div_toRat (a b : Decimal) :
    a.toRat / b.toRat = (withSign (a.negative != b.negative) (a.coefficient * 10 ^ b.scale) : ℤ) /
      (b.coefficient * 10 ^ a.scale : ℕ) := by
  rw [← withSign_div, withSign_mul_natCast, withSign_mul_natCast, Int.cast_mul, Int.cast_mul,
    Int.cast_natCast, Int.cast_natCast, mul_comm _ ((10 ^ a.scale : ℕ) : ℚ), ← div_div_div_eq]
  rfl

/-- A quotient that is a decimal is that decimal in lowest form. -/
theorem div_exact {a b : Decimal} (hb : b.isZero = false) {scale : ℕ} (hscale : scale ≤ 28)
    (h : FitsScale (a.toRat / b.toRat) scale) :
    ∃ d, a.div b = some d ∧ d.toRat = a.toRat / b.toRat := by
  obtain ⟨m, hm, hquotient⟩ := h
  have hden : 0 < b.coefficient * 10 ^ a.scale := coefficient_mul_pos hb a.scale
  have hden' : ((b.coefficient * 10 ^ a.scale : ℕ) : ℚ) ≠ 0 := Nat.cast_ne_zero.mpr hden.ne'
  -- the equation of the quotients, without signs and in whole numbers
  have hwhole : a.coefficient * 10 ^ b.scale * 10 ^ scale =
      m.natAbs * (b.coefficient * 10 ^ a.scale) := by
    rw [toRat_div_toRat, div_eq_div_iff hden' (tenPow_pos scale).ne'] at hquotient
    have hunits : withSign (a.negative != b.negative) (a.coefficient * 10 ^ b.scale) *
        (10 ^ scale : ℕ) = m * (b.coefficient * 10 ^ a.scale : ℕ) := by exact_mod_cast hquotient
    have habs := congrArg Int.natAbs hunits
    rwa [Int.natAbs_mul, Int.natAbs_mul, natAbs_withSign, Int.natAbs_natCast,
      Int.natAbs_natCast] at habs
  obtain ⟨d, hd, hnegative, hcoefficient⟩ :=
    ofRatio?_of_mul_eq (a.negative != b.negative) hden hm hwhole hscale (Nat.le_refl 28)
  refine ⟨d.normalize, by rw [div, hd]; rfl, ?_⟩
  rw [toRat_normalize, toRat_div_toRat]
  show ((withSign d.negative d.coefficient : ℤ) : ℚ) / (10 ^ d.scale : ℕ) = _
  rw [hnegative]
  exact withSign_div_congr _ (Nat.pow_pos (by decide)).ne' hden.ne' hcoefficient

end Decimal

namespace ArithmeticRule

open Decimal

variable (env : Environment) (ctx : Context) (target leftType rightType : TypeDecl)

/-- Integers are divided as decimals too. -/
theorem numeric_divide (x y : Number) :
    numeric.calculate env ctx target leftType rightType x.value y.value .divide =
      decimals x.toDecimal y.toDecimal .divide := by
  cases x <;> cases y <;> rfl

/-- **Quotients are exact where they can be.** A quotient that is a number of 96 bits at one of the
scales up to 28 is exact, and any quotient is the one decimal in lowest form of its value. -/
theorem quotients_exact (x y : Number) :
    (y.toRat ≠ 0 → ∀ scale ≤ 28, FitsScale (x.toRat / y.toRat) scale →
      (numeric.calculate env ctx target leftType rightType x.value y.value .divide).YieldsDecimal
        (x.toRat / y.toRat)) ∧
    ∀ v, numeric.calculate env ctx target leftType rightType x.value y.value .divide = .ok v →
      ∃ d, v = .decimal d ∧ d.IsLowest ∧ ∀ e : Decimal, e.IsLowest → e.toRat = d.toRat → e = d := by
  rw [numeric_divide, ← x.toRat_toDecimal, ← y.toRat_toDecimal]
  constructor
  · intro hy scale hscale hfits
    have hzero : ¬y.toDecimal.isZero = true := mt isZero_iff.mp hy
    obtain ⟨d, hd, hvalue⟩ := div_exact (Bool.eq_false_of_not_eq_true hzero) hscale hfits
    exact ⟨d, by rw [decimals, if_neg hzero, hd]; rfl, hvalue⟩
  · intro v hv
    rw [decimals] at hv
    split at hv
    · cases hv
    · obtain ⟨d, rfl, hd⟩ := orOverflow_map_eq_ok_iff.mp hv
      obtain ⟨e, -, rfl⟩ := Option.map_eq_some_iff.mp hd
      exact ⟨_, rfl, e.normalize_isLowest, fun f hf h => hf.eq_of_toRat_eq e.normalize_isLowest h⟩

/-- Eight in the last of 28 places. -/
def leastEight : Decimal := ⟨false, 8, 28, by decide, by decide⟩

/-- 875 · 10^25. -/
def greatQuotient : Decimal :=
  { Decimal.zero with coefficient := 8750000000000000000000000000, coefficient_lt := by decide }

/-- A quotient without room for places keeps the zeros in front of the point. -/
theorem leastEight_exact :
    (Number.decimal leastEight).toRat ≠ 0 ∧
      FitsScale ((Number.integer 7).toRat / (Number.decimal leastEight).toRat) 0 ∧
      numeric.calculate .utc .empty Standard.decimal Standard.integer Standard.decimal
        (.integer 7) (.decimal leastEight) .divide = .ok (.decimal greatQuotient) ∧
      greatQuotient.toRat = (Number.integer 7).toRat / (Number.decimal leastEight).toRat := by
  have hpresent : (Number.decimal leastEight).toRat ≠ 0 := mt isZero_iff.mpr (by decide)
  have hquotient : greatQuotient.toRat =
      (Number.integer 7).toRat / (Number.decimal leastEight).toRat := by
    rw [← (Number.integer 7).toRat_toDecimal, toRat_of_scale_eq_zero rfl]
    show _ = (Decimal.ofInt64 7).toRat / leastEight.toRat
    rw [toRat_div_toRat]
    show ((8750000000000000000000000000 : ℤ) : ℚ) = ((7 * 10 ^ 28 : ℤ) : ℚ) / (8 : ℕ)
    norm_num
  have hfits : FitsScale ((Number.integer 7).toRat / (Number.decimal leastEight).toRat) 0 :=
    hquotient ▸ ⟨greatQuotient.signed, by decide, rfl⟩
  obtain ⟨hexact, hlowest⟩ := quotients_exact .utc .empty Standard.decimal Standard.integer
    Standard.decimal (.integer 7) (.decimal leastEight)
  obtain ⟨d, hd, hvalue⟩ := hexact hpresent 0 (by decide) hfits
  obtain ⟨_, ⟨⟩, -, hunique⟩ := hlowest _ hd
  have hgreat : greatQuotient.IsLowest := ⟨.inl rfl, fun hzero => absurd hzero (by decide)⟩
  rw [hunique greatQuotient hgreat (hquotient.trans hvalue.symm)]
  exact ⟨hpresent, hfits, hd, hvalue⟩

end ArithmeticRule

end TypedExpr
