import TypedExpr.Proofs.EntityEquality
import TypedExpr.Proofs.ExactDecimal
import TypedExpr.Proofs.IntervalShift
import TypedExpr.Proofs.Outcome
import TypedExpr.Proofs.TemporalOrder

/-!
# Sums and products in either order

PLUS takes its operands in either order, and so does MULTIPLY of numbers: both orders have equal
results, or errors of one kind. An equal result may be written differently, since the sum of two
zeros is the one on the right. MINUS has an order: an interval is taken from a point in time, and no
point in time from an interval.
-/

namespace TypedExpr

/-! ## Equal outcomes -/

namespace Outcome

/-- Equal values, or errors of one kind. -/
abbrev Matches : Outcome Value → Outcome Value → Prop :=
  Related (fun e f => e.kind = f.kind) fun v w => v.same w

end Outcome

theorem Value.same_self {v : Value} (h : ¬v.isComposite) : v.same v :=
  (same_iff_of_not_isComposite h v).mpr rfl

theorem Value.same_decimal_iff {a b : Decimal} :
    (Value.decimal a).same (.decimal b) ↔ a.toRat = b.toRat := by
  rw [same, Decimal.same_iff_toRat_eq]

namespace ArithmeticRule

variable {α : Type} {f : α → Value} {op : ArithmeticOperator} {l r l' r' : Value}

/-- Equal results, or overflows of one operation on any operands. -/
theorem orOverflow_matches {x y : Option α}
    (h : Option.Rel (fun a b => (f a).same (f b)) x y) :
    (orOverflow op l r (x.map f)).Matches (orOverflow op l' r' (y.map f)) := by
  cases h with
  | some hsame => exact hsame
  | none => rfl

theorem orOverflow_matches_of_eq {x y : Option α} (hf : ∀ a, ¬(f a).isComposite) (h : x = y) :
    (orOverflow op l r (x.map f)).Matches (orOverflow op l' r' (y.map f)) := by
  subst h
  apply orOverflow_matches
  cases x with
  | some a => exact .some (Value.same_self (hf a))
  | none => exact .none

end ArithmeticRule

/-! ## Numbers -/

namespace Decimal

/-- The sum of two zeros is the one on the right; any other sum is the same in both orders. -/
theorem add_turned (a b : Decimal) :
    Option.Rel (fun c d => c.toRat = d.toRat) (a.add b) (b.add a) := by
  have hrefl (x : Option Decimal) : Option.Rel (fun c d => c.toRat = d.toRat) x x := by
    cases x with
    | some c => exact .some rfl
    | none => exact .none
  unfold add
  by_cases ha : a.isZero = true
  · by_cases hb : b.isZero = true
    · -- two zeros, which may differ in sign and scale
      rw [if_pos ha, if_pos hb]
      exact .some ((isZero_iff.mp hb).trans (isZero_iff.mp ha).symm)
    · rw [if_pos ha, if_neg hb, if_pos ha]
      exact hrefl _
  · by_cases hb : b.isZero = true
    · rw [if_neg ha, if_pos hb, if_pos hb]
      exact hrefl _
    · rw [if_neg ha, if_neg hb, if_neg hb, if_neg ha]
      simp only [Nat.max_comm a.scale, Int.add_comm (a.signed * _)]
      exact hrefl _

theorem mul_comm (a b : Decimal) : a.mul b = b.mul a := by
  simp only [mul, Nat.add_comm a.scale, Nat.mul_comm a.coefficient, Bool.and_comm a.isShort,
    Bool.or_comm a.isZero, bne_comm (a := a.negative)]

end Decimal

namespace ArithmeticRule

open EvalError

theorem decimals_plus_turned (a b : Decimal) :
    (decimals a b .plus).Matches (decimals b a .plus) := by
  apply orOverflow_matches
  simp only [Value.same_decimal_iff]
  exact a.add_turned b

theorem decimals_multiply_turned (a b : Decimal) :
    (decimals a b .multiply).Matches (decimals b a .multiply) :=
  orOverflow_matches_of_eq (fun _ => Bool.false_ne_true) (a.mul_comm b)

theorem integers_plus_turned (a b : Int64) :
    (integers a b .plus).Matches (integers b a .plus) :=
  orOverflow_matches_of_eq (fun _ => Bool.false_ne_true) (congrArg int64? (Int.add_comm _ _))

theorem integers_multiply_turned (a b : Int64) :
    (integers a b .multiply).Matches (integers b a .multiply) :=
  orOverflow_matches_of_eq (fun _ => Bool.false_ne_true) (congrArg int64? (Int.mul_comm _ _))

/-- Either order makes integers of two integers and decimals of any other two numbers. -/
theorem numbers_turned {op : ArithmeticOperator} (hop : op.isUnary = false)
    (hintegers : ∀ a b, (integers a b op).Matches (integers b a op))
    (hdecimals : ∀ a b, (decimals a b op).Matches (decimals b a op)) (l r : Value) :
    (numbers l r op).Matches (numbers r l op) := by
  cases op with
  | unaryMinus | unaryPlus => cases hop
  | _ =>
    -- where one side is no number, both orders refuse their operands
    cases l with
    | integer a =>
      cases r with
      | integer b => exact hintegers a b
      | decimal e => exact hdecimals (.ofInt64 a) e
      | _ => rfl
    | decimal d =>
      cases r with
      | integer b => exact hdecimals d (.ofInt64 b)
      | decimal e => exact hdecimals d e
      | _ => rfl
    | _ => cases r <;> rfl

/-! ## Points in time and intervals -/

theorem combine_turned (a b : Interval) (l r : Value) :
    (combine a b l r .plus).Matches (combine b a r l .plus) := by
  have hadd : a.add b = b.add a := by
    simp only [Interval.add, Interval.zipWith, Int.add_comm]
  exact orOverflow_matches_of_eq (fun _ => Bool.false_ne_true) hadd

theorem moveDate_turned (d : Date) (i : Interval) (l r : Value) :
    (moveDate d i l r .plus).Matches (moveDate d i r l .plus) :=
  orOverflow_matches_of_eq (fun _ => Bool.false_ne_true) rfl

theorem moveInstant_turned (t : Instant) (i : Interval) (l r : Value) :
    (moveInstant t i l r .plus).Matches (moveInstant t i r l .plus) :=
  orOverflow_matches_of_eq (fun _ => Bool.false_ne_true) rfl

theorem dates_plus_turned (l r : Value) : (dates l r .plus).Matches (dates r l .plus) := by
  cases l with
  | interval a =>
    cases r with
    | interval b => exact combine_turned a b (.interval a) (.interval b)
    | date e => exact moveDate_turned e a (.interval a) (.date e)
    | _ => rfl
  | date d =>
    cases r with
    | interval b => exact moveDate_turned d b (.date d) (.interval b)
    | _ => rfl
  | _ => cases r <;> rfl

/-- A date that starts nowhere is refused in both orders. -/
theorem localDates_plus_turned (start : Date → Outcome Instant) (l r : Value) :
    (localDates start l r .plus).Matches (localDates start r l .plus) := by
  have hmove (d : Date) (i : Interval) (l r : Value) :
      Outcome.Matches (do moveInstant (← start d) i l r .plus)
        (do moveInstant (← start d) i r l .plus) := by
    refine Outcome.Related.bind_same ?_ (start d) fun t => moveInstant_turned t i l r
    exact fun _ => rfl
  cases l with
  | interval a =>
    cases r with
    | interval b => exact combine_turned a b (.interval a) (.interval b)
    | date e => exact hmove e a (.interval a) (.date e)
    | _ => rfl
  | date d =>
    cases r with
    | interval b => exact hmove d b (.date d) (.interval b)
    | _ => rfl
  | _ => cases r <;> rfl

theorem instants_plus_turned (l r : Value) :
    (instants l r .plus).Matches (instants r l .plus) := by
  cases l with
  | interval a =>
    cases r with
    | interval b => exact combine_turned a b (.interval a) (.interval b)
    | instant u => exact moveInstant_turned u a (.interval a) (.instant u)
    | _ => rfl
  | instant t =>
    cases r with
    | interval b => exact moveInstant_turned t b (.instant t) (.interval b)
    | _ => rfl
  | _ => cases r <;> rfl

theorem intervals_plus_turned (l r : Value) :
    (intervals l r .plus).Matches (intervals r l .plus) := by
  cases l with
  | interval a =>
    cases r with
    | interval b => exact combine_turned a b (.interval a) (.interval b)
    | _ => rfl
  | _ => cases r <;> rfl

/-! ## Rules -/

/-- The rules by which points in time are moved. -/
def pointRules : List ArithmeticRule := [date, localDate, timestamp]

/-- The rules by which PLUS adds up. -/
def sumRules : List ArithmeticRule := [numeric, interval] ++ pointRules

section

variable (env : Environment) (ctx : Context) (target leftType rightType : TypeDecl)

theorem plus_turned {rule : ArithmeticRule} (h : rule ∈ sumRules) (l r : Value) :
    (rule.calculate env ctx target leftType rightType l r .plus).Matches
      (rule.calculate env ctx target rightType leftType r l .plus) := by
  cases rule with
  | numeric => exact numbers_turned rfl integers_plus_turned decimals_plus_turned l r
  | date => exact dates_plus_turned l r
  | localDate => exact localDates_plus_turned env.startOfDay l r
  | timestamp => exact instants_plus_turned l r
  | interval => exact intervals_plus_turned l r
  | string | host _ => simp [sumRules, pointRules] at h

/-- The interval and the point in time that it can be taken from do not change places. -/
theorem minus_turned {rule : ArithmeticRule} (hrule : rule ∈ pointRules) {point : TimePoint}
    {i : Interval} {v : Value}
    (h : rule.calculate env ctx target leftType rightType point.value (.interval i) .minus =
      .ok v) :
    rule.calculate env ctx target rightType leftType (.interval i) point.value .minus =
      .error (noArithmetic .minus (.interval i) point.value) := by
  cases rule with
  | date | localDate =>
    cases point with
    | date d => rfl
    | instant t => cases h
  | timestamp =>
    cases point with
    | date d => cases h
    | instant t => rfl
  | numeric | interval | string | host _ => simp [pointRules] at hrule

/-- **Sums and products in either order.** By the rules for numbers, points in time and intervals,
both orders of any two values have equal sums, or errors of one kind, and so have both orders of a
product of numbers. Where an interval can be taken from a point in time, MINUS does not apply to the
two of them in the other order. -/
theorem plus_and_multiply_commute :
    (∀ rule ∈ sumRules, ∀ l r,
      (rule.calculate env ctx target leftType rightType l r .plus).Matches
        (rule.calculate env ctx target rightType leftType r l .plus)) ∧
    (∀ l r, (numeric.calculate env ctx target leftType rightType l r .multiply).Matches
      (numeric.calculate env ctx target rightType leftType r l .multiply)) ∧
    ∀ rule ∈ pointRules, ∀ (point : TimePoint) (i : Interval) v,
      rule.calculate env ctx target leftType rightType point.value (.interval i) .minus = .ok v →
      rule.calculate env ctx target rightType leftType (.interval i) point.value .minus =
        .error (noArithmetic .minus (.interval i) point.value) := by
  refine ⟨?_, ?_, ?_⟩
  · intro rule hrule l r
    exact plus_turned env ctx target leftType rightType hrule l r
  · intro l r
    exact numbers_turned rfl integers_multiply_turned decimals_multiply_turned l r
  · intro rule hrule point i v h
    exact minus_turned env ctx target leftType rightType hrule h

end

/-- Zeros of different scales, of which each is the sum in one order; and a day that can be taken
from the new year, but not the new year from a day. -/
theorem zeros_commute :
    numeric ∈ sumRules ∧ localDate ∈ pointRules ∧
      numeric.calculate .utc .empty Standard.decimal Standard.decimal Standard.decimal
        (.decimal ComparisonRule.minusZero) (.decimal .zero) .plus = .ok (.decimal .zero) ∧
      numeric.calculate .utc .empty Standard.decimal Standard.decimal Standard.decimal
        (.decimal .zero) (.decimal ComparisonRule.minusZero) .plus =
          .ok (.decimal ComparisonRule.minusZero) ∧
      (numeric.calculate .utc .empty Standard.decimal Standard.decimal Standard.decimal
        (.decimal ComparisonRule.minusZero) (.decimal .zero) .plus).Matches
        (numeric.calculate .utc .empty Standard.decimal Standard.decimal Standard.decimal
          (.decimal .zero) (.decimal ComparisonRule.minusZero) .plus) ∧
      localDate.calculate .utc .empty Standard.timestamp Standard.localDate Standard.interval
        (.date newYear) (.interval (.ofDays (-1))) .minus =
          .ok (.instant (.startOfDay ⟨738886, by decide, by decide⟩)) ∧
      localDate.calculate .utc .empty Standard.timestamp Standard.interval Standard.localDate
        (.interval (.ofDays (-1))) (.date newYear) .minus =
          .error (noArithmetic .minus (.interval (.ofDays (-1))) (.date newYear)) := by
  have hsum : numeric ∈ sumRules := by simp [sumRules]
  have hpoint : localDate ∈ pointRules := by simp [pointRules]
  have hdayLater : localDate.calculate .utc .empty Standard.timestamp Standard.localDate
      Standard.interval (.date newYear) (.interval (.ofDays (-1))) .minus =
        .ok (.instant (.startOfDay ⟨738886, by decide, by decide⟩)) := rfl
  obtain ⟨hplus, -, -⟩ := plus_and_multiply_commute .utc .empty Standard.decimal Standard.decimal
    Standard.decimal
  obtain ⟨-, -, hminus⟩ := plus_and_multiply_commute .utc .empty Standard.timestamp
    Standard.localDate Standard.interval
  exact ⟨hsum, hpoint, rfl, rfl, hplus numeric hsum _ _, hdayLater,
    hminus localDate hpoint (.date newYear) _ _ hdayLater⟩

end ArithmeticRule

end TypedExpr
