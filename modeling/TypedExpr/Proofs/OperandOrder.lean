import TypedExpr.Evaluation
import TypedExpr.Proofs.Outcome
import TypedExpr.Standard

/-!
# The order of operands

A comparison is answered by the rule of the type on the left, so the two orders of its operands go
through different rules. Between the scalar types they agree: the converse operator on the operands
turned round has the same answer, or an error of the same kind.

The scalar types fall into families. Values of different families are refused in both orders; within
a family all rules go by one order of the values, or by their equality.
-/

namespace TypedExpr

/-- The scalar types of the standard model. -/
inductive ScalarType where
  | boolean
  | integer
  | decimal
  | string
  | date
  | localDate
  | timestamp
  | interval
  deriving DecidableEq, Repr

/-- The values that are compared with each other. -/
inductive Family where
  | truth
  | number
  | text
  | point
  | span
  deriving DecidableEq, Repr

namespace ScalarType

def all : List ScalarType :=
  [boolean, integer, decimal, string, date, localDate, timestamp, interval]

def decl : ScalarType → TypeDecl
  | boolean => Standard.boolean
  | integer => Standard.integer
  | decimal => Standard.decimal
  | string => Standard.string
  | date => Standard.date
  | localDate => Standard.localDate
  | timestamp => Standard.timestamp
  | interval => Standard.interval

def family : ScalarType → Family
  | boolean => .truth
  | integer | decimal => .number
  | string => .text
  | date | localDate | timestamp => .point
  | interval => .span

theorem mem_all (t : ScalarType) : t ∈ all := by
  cases t <;> decide

theorem map_decl_all : all.map decl = Standard.scalars := rfl

end ScalarType

/-- The present values of a type; both numeric types hold all numbers. -/
inductive Value.IsOf : Value → ScalarType → Prop
  | boolean (b : Bool) : IsOf (.boolean b) .boolean
  | integer (i : Int64) : IsOf (.integer i) .integer
  | wholeDecimal (i : Int64) : IsOf (.integer i) .decimal
  | decimal (d : Decimal) : IsOf (.decimal d) .decimal
  | brokenInteger (d : Decimal) : IsOf (.decimal d) .integer
  | string (s : String) : IsOf (.string s) .string
  | date (d : Date) : IsOf (.date d) .date
  | localDate (d : Date) : IsOf (.date d) .localDate
  | instant (t : Instant) : IsOf (.instant t) .timestamp
  | interval (i : Interval) : IsOf (.interval i) .interval

/-- The family of a value that belongs to a scalar type. -/
def Value.family? : Value → Option Family
  | .boolean _ => some .truth
  | .integer _ | .decimal _ => some .number
  | .string _ => some .text
  | .date _ | .instant _ => some .point
  | .interval _ => some .span
  | _ => none

theorem Value.IsOf.family?_eq {v : Value} {t : ScalarType} (h : v.IsOf t) :
    v.family? = some t.family := by
  cases h <;> rfl

/-! ## Orders turned round -/

theorem Decimal.compare_swap (a b : Decimal) : (a.compare b).swap = b.compare a :=
  Int.compare_swap _ _

theorem Date.compare_swap (a b : Date) : (a.compare b).swap = b.compare a :=
  Int.compare_swap _ _

theorem Instant.compare_swap (a b : Instant) : (a.compare b).swap = b.compare a := by
  unfold Instant.compare
  rw [Ordering.swap_then, Ordering.swap_then, Date.compare_swap, Nat.compare_swap,
    Nat.compare_swap]

theorem compareStrings_swap (a b : String) :
    (compareOfLessAndEq a b).swap = compareOfLessAndEq b a := by
  rw [compareOfLessAndEq_eq_swap String.le_antisymm String.le_total String.not_le,
    Ordering.swap_swap]

theorem Value.numericOrder?_swap (l r : Value) :
    (l.numericOrder? r).map Ordering.swap = r.numericOrder? l := by
  -- an integer beside a decimal counts as a decimal on either side
  cases l <;> cases r <;>
    simp [numericOrder?, asDecimal?, Int.compare_swap, Decimal.compare_swap]

/-! ## Rules -/

section Rules

open EvalError

variable (env : Environment) (ctx : Context) (op : ComparisonOperator)

/-- The converse operator tests the order from the other side. -/
theorem ComparisonOperator.test_converse_of_swap {o o' : Ordering} (h : o.swap = o') :
    op.converse.test o' = op.test o := by
  rw [← h, op.test_converse]

/-- A value of another family is refused, whatever the rule on the left is. -/
theorem Value.IsOf.compare_foreign {l r : Value} {t : ScalarType} (hl : l.IsOf t)
    (hr : r.family? ≠ some t.family) (rightType : TypeDecl) :
    env.compare ctx t.decl rightType l r op = .error (noComparison op l r) := by
  cases hl with
  | boolean b =>
    cases r with
    | boolean c => exact absurd rfl hr
    | _ => rfl
  | integer i | wholeDecimal i | decimal d | brokenInteger d =>
    cases r with
    | integer j | decimal e => exact absurd rfl hr
    | _ => rfl
  | string s =>
    cases r with
    | string s' => exact absurd rfl hr
    | _ => rfl
  | date d | localDate d | instant u =>
    cases r with
    | date e | instant v => exact absurd rfl hr
    | _ => rfl
  | interval i =>
    cases r with
    | interval j => exact absurd rfl hr
    | _ => rfl

namespace ComparisonRule

theorem numbers_converse (l r : Value) (hl : l.isNumeric) (hr : r.isNumeric) :
    (numbers l r op).Agrees (numbers r l op.converse) := by
  unfold numbers
  rw [if_pos hl, if_pos hr, ← l.numericOrder?_swap r]
  cases l.numericOrder? r with
  | none => rfl
  | some o => exact congrArg some (op.test_converse o).symm

theorem strings_converse (a b : String) :
    (strings (.string a) (.string b) op).Agrees (strings (.string b) (.string a) op.converse) :=
  congrArg some (op.test_converse_of_swap (compareStrings_swap a b)).symm

theorem booleans_converse (b c : Bool) :
    (unordered (.boolean b) (.boolean c) op).Agrees
      (unordered (.boolean c) (.boolean b) op.converse) := by
  cases op with
  | equal | notEqual => cases b <;> cases c <;> rfl
  | _ => rfl

theorem intervals_converse (a b : Interval) :
    (intervals (.interval a) (.interval b) op).Agrees
      (intervals (.interval b) (.interval a) op.converse) := by
  cases op with
  | equal => exact congrArg some BEq.comm
  | notEqual => exact congrArg (fun same => some (!same)) BEq.comm
  | _ => rfl

theorem instants_converse (t u : Instant) :
    (instants (.instant t) (.instant u) op).Agrees
      (instants (.instant u) (.instant t) op.converse) :=
  congrArg some (op.test_converse_of_swap (t.compare_swap u)).symm

end ComparisonRule

/-- An instant hands a date over to the date's own rule, so both orders end there. -/
theorem Environment.compare_handed_over {dateType pointType : TypeDecl}
    (hpoint : pointType.comparison = some .timestamp) {rule : ComparisonRule}
    (hdate : dateType.comparison = some rule) (d : Date) (t : Instant) :
    env.compare ctx pointType dateType (.instant t) (.date d) op.converse =
      env.compare ctx dateType pointType (.date d) (.instant t) op := by
  simp only [Environment.compare, hpoint, hdate, ComparisonRule.compare, op.converse_converse]

open ComparisonRule

/-- Within a family both orders are answered, or both refused. -/
theorem Value.IsOf.compare_converse_of_family {l r : Value} {tl tr : ScalarType} (hl : l.IsOf tl)
    (hr : r.IsOf tr) (h : tl.family = tr.family) :
    (env.compare ctx tl.decl tr.decl l r op).Agrees
      (env.compare ctx tr.decl tl.decl r l op.converse) := by
  cases hl with
  | boolean b =>
    cases hr with
    | boolean c => exact booleans_converse op b c
    | _ => cases h
  | integer i | wholeDecimal i =>
    cases hr with
    | integer j | wholeDecimal j => exact numbers_converse op (.integer i) (.integer j) rfl rfl
    | decimal e | brokenInteger e => exact numbers_converse op (.integer i) (.decimal e) rfl rfl
    | _ => cases h
  | decimal d | brokenInteger d =>
    cases hr with
    | integer j | wholeDecimal j => exact numbers_converse op (.decimal d) (.integer j) rfl rfl
    | decimal e | brokenInteger e => exact numbers_converse op (.decimal d) (.decimal e) rfl rfl
    | _ => cases h
  | string s =>
    cases hr with
    | string s' => exact strings_converse op s s'
    | _ => cases h
  | date d | localDate d =>
    cases hr with
    | date e | localDate e =>
      -- two dates are compared as days, so it does not matter at which instants they start
      exact congrArg some (op.test_converse_of_swap (d.compare_swap e)).symm
    | instant u => exact .of_eq (env.compare_handed_over ctx op rfl rfl d u).symm
    | _ => cases h
  | instant t =>
    cases hr with
    | date e | localDate e => exact .of_eq rfl
    | instant u => exact instants_converse op t u
    | _ => cases h
  | interval a =>
    cases hr with
    | interval b => exact intervals_converse op a b
    | _ => cases h

end Rules

/-- **The order of operands.** Between scalar types of the standard model, a comparison and its
converse have the same answer, or errors of the same kind, in every zone. -/
theorem compare_turned (env : Environment) (ctx : Context) {tl tr : ScalarType} {l r : Value}
    (hl : l.IsOf tl) (hr : r.IsOf tr) (op : ComparisonOperator) :
    (env.compare ctx tl.decl tr.decl l r op).Agrees
      (env.compare ctx tr.decl tl.decl r l op.converse) := by
  -- either both orders are within one family, or each rule refuses the other operand
  by_cases h : tl.family = tr.family
  · exact hl.compare_converse_of_family env ctx op hr h
  · have hforeign : r.family? ≠ some tl.family := by
      rw [hr.family?_eq]
      exact fun heq => h (Option.some.inj heq).symm
    have hforeign' : l.family? ≠ some tr.family := by
      rw [hl.family?_eq]
      exact fun heq => h (Option.some.inj heq)
    rw [hl.compare_foreign env ctx op hforeign, hr.compare_foreign env ctx op.converse hforeign']
    rfl

/-- A zone in which midnight of the first day of the calendar is no instant. -/
def easternmost : Environment := ⟨.fixed 86399, .bare⟩

/-- The first day of the calendar. -/
def dawn : Date := ⟨Calendar.firstDay, by decide, by decide⟩

/-- Both orders are refused for the same missing start of the day. -/
theorem dawn_turned :
    Value.IsOf (.instant (.startOfDay dawn)) .timestamp ∧ Value.IsOf (.date dawn) .localDate ∧
      easternmost.compare .empty Standard.timestamp Standard.localDate
        (.instant (.startOfDay dawn)) (.date dawn) .greater =
          .error (.illegalArgument (.startOfDay dawn)) ∧
      (easternmost.compare .empty Standard.timestamp Standard.localDate
        (.instant (.startOfDay dawn)) (.date dawn) .greater).Agrees
        (easternmost.compare .empty Standard.localDate Standard.timestamp
          (.date dawn) (.instant (.startOfDay dawn)) .lower) :=
  ⟨.instant _, .localDate _, rfl,
    compare_turned easternmost .empty (.instant _) (.localDate _) .greater⟩

end TypedExpr
