import TypedExpr.Capability.Arithmetic
import TypedExpr.Proofs.ExactDecimal

/-!
# Integer arithmetic

On two integers an operator yields its exact result whenever that is an integer of 64 bits, and
overflows where it is not. One pair is an exception: the least integer has no remainder by minus
one. The remainder would be zero, but the quotient that goes with it is too large.

Decimals without places stand in for integers without a difference: the operators yield the same
numbers on them and refuse to divide by the same zeros.
-/

namespace TypedExpr

/-- The integer that an operator yields exactly, if it yields one. Remainders are those of the
division toward zero. -/
def ArithmeticOperator.onIntegers? : ArithmeticOperator → ℤ → ℤ → Option ℤ
  | plus, a, b => some (a + b)
  | minus, a, b => some (a - b)
  | multiply, a, b => some (a * b)
  | modulo, a, b => if b = 0 then none else some (a.tmod b)
  | divide, _, _ | unaryMinus, _, _ | unaryPlus, _, _ => none

/-- Whether an integer is one of 64 bits. -/
def FitsInt64 (z : ℤ) : Prop := -2 ^ 63 ≤ z ∧ z < 2 ^ 63

instance (z : ℤ) : Decidable (FitsInt64 z) := inferInstanceAs (Decidable (_ ∧ _))

theorem int64?_eq_none_iff_not_fits {z : ℤ} : int64? z = none ↔ ¬FitsInt64 z := by
  rw [int64?_eq_none_iff, FitsInt64]
  omega

theorem toInt_eq_zero_iff {b : Int64} : b.toInt = 0 ↔ b = 0 := Int64.toInt_inj (y := 0)

/-- The operands of the one division of integers with a quotient that is too large: 2^63. -/
def IsLeastByMinusOne (a b : Int64) : Prop := a = Int64.minValue ∧ b = -1

instance (a b : Int64) : Decidable (IsLeastByMinusOne a b) := inferInstanceAs (Decidable (_ ∧ _))

namespace ArithmeticRule

/-! ## Exact results -/

theorem integers_eq {a b : Int64} {op : ArithmeticOperator} {z : ℤ}
    (hz : op.onIntegers? a.toInt b.toInt = some z) :
    integers a b op = orOverflow op (.integer a) (.integer b)
      ((if op = .modulo ∧ IsLeastByMinusOne a b then none else int64? z).map .integer) := by
  cases op with
  | plus | minus | multiply =>
    cases hz
    rfl
  | modulo =>
    simp only [ArithmeticOperator.onIntegers?, toInt_eq_zero_iff] at hz
    split at hz
    next hzero => cases hz
    next hb =>
      cases hz
      simp only [integers, if_neg hb, remainder, IsLeastByMinusOne, true_and]
  | _ => cases hz

theorem integers_eq_ok_iff {a b : Int64} {op : ArithmeticOperator} {z : ℤ}
    (hz : op.onIntegers? a.toInt b.toInt = some z) {v : Value} :
    integers a b op = .ok v ↔
      ∃ c : Int64, v = .integer c ∧ c.toInt = z ∧ ¬(op = .modulo ∧ IsLeastByMinusOne a b) := by
  rw [integers_eq hz, orOverflow_map_eq_ok_iff]
  split
  next hleast => simp [hleast]
  next hleast => simp only [int64?_eq_some_iff, hleast, not_false_eq_true, and_true]

theorem integers_eq_error_iff {a b : Int64} {op : ArithmeticOperator} {z : ℤ}
    (hz : op.onIntegers? a.toInt b.toInt = some z) {error : EvalError} :
    integers a b op = .error error ↔
      error = .overflow (.apply op (.integer a) (.integer b)) ∧
        (¬FitsInt64 z ∨ op = .modulo ∧ IsLeastByMinusOne a b) := by
  rw [integers_eq hz, orOverflow_map_eq_error_iff]
  split
  next hleast => simp [hleast]
  next hleast => simp only [int64?_eq_none_iff_not_fits, hleast, or_false]

theorem negateNumber_eq (a : Int64) : negateNumber (.integer a) =
    match int64? (-a.toInt) with
    | some c => .ok (.integer c)
    | none => .error (.overflow (.negate (.integer a))) := rfl

theorem negateNumber_eq_ok_iff {a : Int64} {v : Value} :
    negateNumber (.integer a) = .ok v ↔ ∃ c : Int64, v = .integer c ∧ c.toInt = -a.toInt := by
  rw [negateNumber_eq]
  simp only [← int64?_eq_some_iff]
  cases int64? (-a.toInt) <;> simp [eq_comm]

theorem negateNumber_eq_error_iff {a : Int64} {error : EvalError} :
    negateNumber (.integer a) = .error error ↔
      error = .overflow (.negate (.integer a)) ∧ ¬FitsInt64 (-a.toInt) := by
  rw [negateNumber_eq]
  simp only [← int64?_eq_none_iff_not_fits]
  cases int64? (-a.toInt) <;> simp [eq_comm]

section

variable (env : Environment) (ctx : Context) (target leftType rightType : TypeDecl)

theorem numeric_integers (a b : Int64) {op : ArithmeticOperator} (hop : op.isUnary = false) :
    numeric.calculate env ctx target leftType rightType (.integer a) (.integer b) op =
      integers a b op := by
  cases op with
  | unaryMinus | unaryPlus => cases hop
  | _ => rfl

/-- **Integer arithmetic is exact.** Sums, differences, products and remainders of integers are the
exact ones, and overflow only where these do not fit 64 bits, except for the remainder of the least
integer by minus one, which overflows too. Zero is no divisor, and the opposite of an integer
overflows exactly where it does not fit. -/
theorem integers_exact (a b : Int64) :
    (∀ op z, ArithmeticOperator.onIntegers? op a.toInt b.toInt = some z →
      (∀ v, numeric.calculate env ctx target leftType rightType (.integer a) (.integer b) op =
          .ok v ↔
        ∃ c : Int64, v = .integer c ∧ c.toInt = z ∧ ¬(op = .modulo ∧ IsLeastByMinusOne a b)) ∧
      ∀ error, numeric.calculate env ctx target leftType rightType (.integer a) (.integer b) op =
          .error error ↔
        error = .overflow (.apply op (.integer a) (.integer b)) ∧
          (¬FitsInt64 z ∨ op = .modulo ∧ IsLeastByMinusOne a b)) ∧
    numeric.calculate env ctx target leftType rightType (.integer a) (.integer 0) .modulo =
      .error .divisionByZero ∧
    ∀ r, (∀ v, numeric.calculate env ctx target leftType rightType (.integer a) r .unaryMinus =
          .ok v ↔
        ∃ c : Int64, v = .integer c ∧ c.toInt = -a.toInt) ∧
      ∀ error, numeric.calculate env ctx target leftType rightType (.integer a) r .unaryMinus =
          .error error ↔
        error = .overflow (.negate (.integer a)) ∧ ¬FitsInt64 (-a.toInt) := by
  refine ⟨fun op z hz => ?_, rfl, fun r => ⟨fun v => negateNumber_eq_ok_iff,
    fun error => negateNumber_eq_error_iff⟩⟩
  have hop : op.isUnary = false := by
    cases op with
    | unaryMinus | unaryPlus => cases hz
    | _ => rfl
  rw [numeric_integers env ctx target leftType rightType a b hop]
  exact ⟨fun v => integers_eq_ok_iff hz, fun error => integers_eq_error_iff hz⟩

/-- 2^32, of which minus 2^31 times makes up the least integer. -/
def wordCount : Int64 := 4294967296

/-- The product that is the least integer is exact, and its opposite overflows. -/
theorem wordCount_exact :
    (ArithmeticOperator.multiply.onIntegers? wordCount.toInt (-2147483648 : Int64).toInt =
        some (-2 ^ 63) ∧
      numeric.calculate .utc .empty Standard.integer Standard.integer Standard.integer
        (.integer wordCount) (.integer (-2147483648)) .multiply = .ok (.integer Int64.minValue)) ∧
    (ArithmeticOperator.multiply.onIntegers? wordCount.toInt (2147483648 : Int64).toInt =
        some (2 ^ 63) ∧
      numeric.calculate .utc .empty Standard.integer Standard.integer Standard.integer
        (.integer wordCount) (.integer 2147483648) .multiply =
          .error (.overflow (.apply .multiply (.integer wordCount) (.integer 2147483648)))) := by
  have hleast : ArithmeticOperator.multiply.onIntegers? wordCount.toInt
      (-2147483648 : Int64).toInt = some (-2 ^ 63) := by decide
  have hgreat : ArithmeticOperator.multiply.onIntegers? wordCount.toInt
      (2147483648 : Int64).toInt = some (2 ^ 63) := by decide
  exact ⟨⟨hleast, (((integers_exact _ _ _ _ _ _ _).1 _ _ hleast).1 _).mpr
      ⟨Int64.minValue, rfl, by decide, by decide⟩⟩,
    hgreat, (((integers_exact _ _ _ _ _ _ _).1 _ _ hgreat).2 _).mpr ⟨rfl, by decide⟩⟩

/-- The remainder of the least integer by minus one is zero, and fits, but the rule overflows; the
equal decimals have it. -/
theorem least_modulo_minusOne :
    ArithmeticOperator.modulo.onIntegers? Int64.minValue.toInt (-1 : Int64).toInt = some 0 ∧
      FitsInt64 0 ∧
      numeric.calculate .utc .empty Standard.integer Standard.integer Standard.integer
          (.integer Int64.minValue) (.integer (-1)) .modulo =
        .error (.overflow (.apply .modulo (.integer Int64.minValue) (.integer (-1)))) ∧
      numeric.calculate .utc .empty Standard.decimal Standard.decimal Standard.integer
          (.decimal (.ofInt64 Int64.minValue)) (.integer (-1)) .modulo = .ok (.decimal .zero) :=
  ⟨by decide, by decide, rfl, rfl⟩

end

end ArithmeticRule

/-! ## Decimals without places -/

/-- Whether a number is an integer: it itself, or an equal decimal without places. -/
def Number.Spells (x : Number) (i : Int64) : Prop := x.toDecimal.scale = 0 ∧ x.toRat = i.toInt

namespace Number.Spells

theorem signed_eq {x : Number} {i : Int64} (h : x.Spells i) : x.toDecimal.signed = i.toInt := by
  have hvalue := h.2
  rw [← x.toRat_toDecimal, Decimal.toRat_of_scale_eq_zero h.1] at hvalue
  exact Int.cast_injective hvalue

theorem isZero_iff {x : Number} {i : Int64} (h : x.Spells i) :
    x.toDecimal.isZero = true ↔ i = 0 := by
  rw [← Decimal.signed_eq_zero_iff, h.signed_eq, toInt_eq_zero_iff]

theorem integer_eq {i j : Int64} (h : (integer j).Spells i) : j = i :=
  Int64.toInt_inj.mp (Int.cast_injective h.2)

theorem refl (i : Int64) : (integer i).Spells i := ⟨rfl, rfl⟩

theorem isZero_ofInt64 {i : Int64} : (Decimal.ofInt64 i).isZero = true ↔ i = 0 :=
  (refl i).isZero_iff

/-- Only zero has more than one spelling among the decimals. -/
theorem toDecimal_eq {x : Number} {i : Int64} (h : x.Spells i) (hi : i ≠ 0) :
    x.toDecimal = .ofInt64 i := by
  refine Decimal.eq_of_signed h.1 (h.signed_eq.trans (Decimal.signed_ofInt64 i).symm) ?_
  rw [h.signed_eq, Ne, toInt_eq_zero_iff]
  exact hi

end Number.Spells

namespace ArithmeticRule

/-- On decimals without places the operators yield the same integers as on integers. -/
theorem decimals_whole {d e : Decimal} {op : ArithmeticOperator} {z : ℤ} (hd : d.scale = 0)
    (he : e.scale = 0) (hz : op.onIntegers? d.signed e.signed = some z) (hfits : z.natAbs < 2 ^ 96)
    (hshort : e.coefficient < 2 ^ 64) : ∃ w, decimals d e op = .ok (.decimal w) ∧ w.toRat = z := by
  have hscale : max d.scale e.scale = 0 := by rw [hd, he, Nat.max_self]
  have hdUnits : d.unitsAt (max d.scale e.scale) = d.signed := by rw [hscale, d.unitsAt_zero]
  have heUnits : e.unitsAt (max d.scale e.scale) = e.signed := by rw [hscale, e.unitsAt_zero]
  have hdValue := Decimal.toRat_of_scale_eq_zero hd
  have heValue := Decimal.toRat_of_scale_eq_zero he
  cases op with
  | plus =>
    cases hz
    obtain ⟨w, hw, hvalue⟩ := Decimal.add_exact (a := d) (b := e) (by rwa [hdUnits, heUnits])
    exact ⟨w, by rw [decimals, hw]; rfl, by rw [hvalue, hdValue, heValue, Int.cast_add]⟩
  | minus =>
    cases hz
    obtain ⟨w, hw, hvalue⟩ := Decimal.sub_exact (a := d) (b := e) (by rwa [hdUnits, heUnits])
    exact ⟨w, by rw [decimals, hw]; rfl, by rw [hvalue, hdValue, heValue, Int.cast_sub]⟩
  | multiply =>
    cases hz
    have hc : d.coefficient * e.coefficient < 2 ^ 96 := by
      rwa [Int.natAbs_mul, d.natAbs_signed, e.natAbs_signed] at hfits
    obtain ⟨w, hw, hvalue⟩ := Decimal.mul_exact hc (by omega)
    exact ⟨w, by rw [decimals, hw]; rfl, by rw [hvalue, hdValue, heValue, Int.cast_mul]⟩
  | modulo =>
    simp only [ArithmeticOperator.onIntegers?, Decimal.signed_eq_zero_iff] at hz
    split at hz
    next hzero => cases hz
    next hzero =>
      cases hz
      have hword : ¬d.RemainderLosesWord e := by
        apply Decimal.not_losesWord_of_lt
        rwa [heUnits, e.natAbs_signed]
      obtain ⟨w, hw, -, hexact⟩ := Decimal.rem_eq_some (Bool.eq_false_of_not_eq_true hzero)
      have hvalue := hexact hword
      rw [hdUnits, heUnits, hscale, Nat.pow_zero, Nat.cast_one, div_one] at hvalue
      exact ⟨w, by rw [decimals, if_neg hzero, hw]; rfl, hvalue⟩
  | _ => cases hz

/-- Operands that are equal divide to the same result. -/
theorem decimals_divide {x y : Number} {a b : Int64} (hx : x.Spells a) (hy : y.Spells b) :
    decimals x.toDecimal y.toDecimal .divide = decimals (.ofInt64 a) (.ofInt64 b) .divide := by
  by_cases hb : b = 0
  · rw [decimals, decimals, if_pos (hy.isZero_iff.mpr hb),
      if_pos (Number.Spells.isZero_ofInt64.mpr hb)]
  · rw [hy.toDecimal_eq hb]
    by_cases ha : a = 0
    · -- the sign of a zero is lost in the quotient
      have hdivisor : (Decimal.ofInt64 b).isZero = false :=
        Bool.eq_false_of_not_eq_true (mt Number.Spells.isZero_ofInt64.mp hb)
      have hquotient {d : Decimal} (h : d.isZero = true) :
          decimals d (.ofInt64 b) .divide = .ok (.decimal .zero) := by
        rw [decimals, hdivisor, Decimal.div_of_isZero h hdivisor]
        rfl
      rw [hquotient (hx.isZero_iff.mpr ha), hquotient (Number.Spells.isZero_ofInt64.mpr ha)]
    · rw [hx.toDecimal_eq ha]

theorem decimals_eq_ok {d e : Decimal} {op : ArithmeticOperator} {v : Value}
    (h : decimals d e op = .ok v) : ∃ w, v = .decimal w := by
  cases op with
  | plus | minus | multiply =>
    obtain ⟨w, hw, -⟩ := orOverflow_map_eq_ok_iff.mp h
    exact ⟨w, hw⟩
  | divide | modulo =>
    simp only [decimals] at h
    split at h
    · cases h
    · obtain ⟨w, hw, -⟩ := orOverflow_map_eq_ok_iff.mp h
      exact ⟨w, hw⟩
  | unaryMinus | unaryPlus => cases h

theorem exists_onIntegers? {a b : Int64} {op : ArithmeticOperator} {v : Value}
    (h : integers a b op = .ok v) (hop : op ≠ .divide) :
    ∃ z, op.onIntegers? a.toInt b.toInt = some z := by
  cases op with
  | plus | minus | multiply => exact ⟨_, rfl⟩
  | modulo =>
    have hb : b ≠ 0 := by
      rintro rfl
      cases h
    exact ⟨_, if_neg (mt toInt_eq_zero_iff.mp hb)⟩
  | divide => exact absurd rfl hop
  | unaryMinus | unaryPlus => cases h

theorem decimals_agree {x y : Number} {a b : Int64} (hx : x.Spells a) (hy : y.Spells b)
    {op : ArithmeticOperator} {v : Value} (h : integers a b op = .ok v) :
    ∃ m n : Number, v = m.value ∧ decimals x.toDecimal y.toDecimal op = .ok n.value ∧
      n.toRat = m.toRat := by
  by_cases hop : op = .divide
  · subst hop
    have hquotient : decimals (.ofInt64 a) (.ofInt64 b) .divide = .ok v := h
    obtain ⟨w, rfl⟩ := decimals_eq_ok hquotient
    exact ⟨.decimal w, .decimal w, rfl, (decimals_divide hx hy).trans hquotient, rfl⟩
  · obtain ⟨z, hz⟩ := exists_onIntegers? h hop
    obtain ⟨c, rfl, hc, -⟩ := (integers_eq_ok_iff hz).mp h
    have hfits : z.natAbs < 2 ^ 96 := by
      have := c.le_toInt
      have := c.toInt_lt
      omega
    have hshort : y.toDecimal.coefficient < 2 ^ 64 := by
      have := b.le_toInt
      have := b.toInt_lt
      rw [← y.toDecimal.natAbs_signed, hy.signed_eq]
      omega
    rw [← hx.signed_eq, ← hy.signed_eq] at hz
    obtain ⟨w, hw, hvalue⟩ := decimals_whole hx.1 hy.1 hz hfits hshort
    exact ⟨.integer c, .decimal w, rfl, hw, hvalue.trans (congrArg _ hc.symm)⟩

theorem orOverflow_ne_divisionByZero (op : ArithmeticOperator) (l r : Value)
    (result : Option Value) : orOverflow op l r result ≠ .error .divisionByZero := by
  cases result <;> simp [orOverflow]

theorem decimals_eq_divisionByZero_iff {d e : Decimal} {op : ArithmeticOperator} :
    decimals d e op = .error .divisionByZero ↔
      (op = .divide ∨ op = .modulo) ∧ e.isZero = true := by
  cases op with
  | plus | minus | multiply => simp [decimals, orOverflow_ne_divisionByZero]
  | divide | modulo =>
    simp only [decimals]
    split
    next hzero => simp [hzero]
    next hzero => simp [hzero, orOverflow_ne_divisionByZero]
  | unaryMinus | unaryPlus => simp [decimals, EvalError.noArithmetic]

theorem integers_eq_divisionByZero_iff {a b : Int64} {op : ArithmeticOperator} :
    integers a b op = .error .divisionByZero ↔ (op = .divide ∨ op = .modulo) ∧ b = 0 := by
  cases op with
  | plus | minus | multiply => simp [integers, orOverflow_ne_divisionByZero]
  | divide =>
    rw [integers, decimals_eq_divisionByZero_iff, Number.Spells.isZero_ofInt64]
  | modulo =>
    simp only [integers]
    split
    next hzero => simp [hzero]
    next hzero => simp [hzero, orOverflow_ne_divisionByZero]
  | unaryMinus | unaryPlus => simp [integers, EvalError.noArithmetic]

section

variable (env : Environment) (ctx : Context) (target leftType rightType : TypeDecl)

/-- A decimal on one side makes decimals of both. -/
theorem numeric_cases (x y : Number) {op : ArithmeticOperator} (hop : op.isUnary = false) :
    (∃ a b, x = .integer a ∧ y = .integer b) ∨
      numeric.calculate env ctx target leftType rightType x.value y.value op =
        decimals x.toDecimal y.toDecimal op := by
  cases op with
  | unaryMinus | unaryPlus => cases hop
  | _ =>
    cases x with
    | integer i =>
      cases y with
      | integer j => exact .inl ⟨i, j, rfl, rfl⟩
      | decimal e => exact .inr rfl
    | decimal d => cases y <;> exact .inr rfl

/-- **One arithmetic.** Where an operator has a result on two integers, it has an equal one when
either or both of them are decimals; and on all of these pairs it divides by zero, or on none. -/
theorem decimals_stand_in {x y : Number} {a b : Int64} (hx : x.Spells a) (hy : y.Spells b)
    {op : ArithmeticOperator} (hop : op.isUnary = false) :
    (∀ v, numeric.calculate env ctx target leftType rightType (.integer a) (.integer b) op =
        .ok v →
      ∃ w, numeric.calculate env ctx target leftType rightType x.value y.value op = .ok w ∧
        ComparisonRule.numeric.compare env ctx leftType rightType w v .equal = .ok (some true)) ∧
    (numeric.calculate env ctx target leftType rightType (.integer a) (.integer b) op =
        .error .divisionByZero ↔
      numeric.calculate env ctx target leftType rightType x.value y.value op =
        .error .divisionByZero) := by
  rcases numeric_cases env ctx target leftType rightType x y hop with ⟨i, j, rfl, rfl⟩ | hdecimals
  · rw [hx.integer_eq, hy.integer_eq]
    refine ⟨fun v hv => ⟨v, hv, ?_⟩, Iff.rfl⟩
    rw [numeric_integers env ctx target leftType rightType a b hop] at hv
    obtain ⟨m, -, rfl, -⟩ := decimals_agree (.refl a) (.refl b) hv
    exact ComparisonRule.numeric_equal env ctx leftType rightType rfl
  · rw [numeric_integers env ctx target leftType rightType a b hop, hdecimals]
    constructor
    · intro v hv
      obtain ⟨m, n, rfl, hn, hsame⟩ := decimals_agree hx hy hv
      exact ⟨n.value, hn, ComparisonRule.numeric_equal env ctx leftType rightType hsame⟩
    · rw [integers_eq_divisionByZero_iff, decimals_eq_divisionByZero_iff, hy.isZero_iff]

/-- As a decimal too, minus seven leaves minus one by minus two; and minus zero, equal to the integer
zero, is no divisor either. -/
theorem minusSeven_stands_in :
    (Number.decimal (.ofInt64 (-7))).Spells (-7) ∧ (Number.decimal Decimal.zero.neg).Spells 0 ∧
      ArithmeticOperator.modulo.isUnary = false ∧
      (∃ w, numeric.calculate .utc .empty Standard.decimal Standard.decimal Standard.integer
          (.decimal (.ofInt64 (-7))) (.integer (-2)) .modulo = .ok w ∧
        ComparisonRule.numeric.compare .utc .empty Standard.decimal Standard.integer w
          (.integer (-1)) .equal = .ok (some true)) ∧
      numeric.calculate .utc .empty Standard.decimal Standard.integer Standard.decimal
        (.integer (-7)) (.decimal Decimal.zero.neg) .modulo = .error .divisionByZero := by
  have hseven : (Number.decimal (.ofInt64 (-7))).Spells (-7) := ⟨rfl, Decimal.toRat_ofInt64 (-7)⟩
  have hzero : (Number.decimal Decimal.zero.neg).Spells 0 := ⟨rfl, Decimal.isZero_iff.mp rfl⟩
  exact ⟨hseven, hzero, rfl,
    (decimals_stand_in _ _ _ _ _ hseven (.refl (-2)) rfl).1 (.integer (-1)) rfl,
    (decimals_stand_in _ _ _ _ _ (.refl (-7)) hzero rfl).2.mp rfl⟩

end

end ArithmeticRule

end TypedExpr
