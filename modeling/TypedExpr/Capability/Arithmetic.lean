import TypedExpr.Decimal.Arithmetic
import TypedExpr.Environment

/-!
# Arithmetic

What each arithmetic rule yields. Two integers stay integers, except for division; an integer
beside a decimal counts as that decimal. PLUS joins texts. Intervals are added and subtracted part
by part and shift dates and instants. A unary operator looks at the left operand only.
-/

namespace TypedExpr

open EvalError

namespace ArithmeticRule

/-- A result, or the overflow of the operation. -/
def orOverflow (op : ArithmeticOperator) (l r : Value) : Option Value → Outcome Value
  | some v => .ok v
  | none => .error (.overflow (.apply op l r))

theorem orOverflow_map_eq_ok_iff {α : Type} {op : ArithmeticOperator} {l r v : Value}
    {f : α → Value} {result : Option α} :
    orOverflow op l r (result.map f) = .ok v ↔ ∃ a, v = f a ∧ result = some a := by
  cases result <;> simp [orOverflow, eq_comm]

theorem orOverflow_map_eq_error_iff {α : Type} {op : ArithmeticOperator} {l r : Value}
    {f : α → Value} {result : Option α} {error : EvalError} :
    orOverflow op l r (result.map f) = .error error ↔
      error = .overflow (.apply op l r) ∧ result = none := by
  cases result <;> simp [orOverflow, eq_comm]

/-! ## Numbers -/

def negateNumber : Value → Outcome Value
  | .integer i =>
    match int64? (-i.toInt) with
    | some j => .ok (.integer j)
    | none => .error (.overflow (.negate (.integer i)))
  | .decimal d => .ok (.decimal d.neg)
  | v => .error (refuse v v)

def decimals (a b : Decimal) (op : ArithmeticOperator) : Outcome Value :=
  let l := Value.decimal a
  let r := Value.decimal b
  match op with
  | .plus => orOverflow op l r ((a.add b).map .decimal)
  | .minus => orOverflow op l r ((a.sub b).map .decimal)
  | .multiply => orOverflow op l r ((a.mul b).map .decimal)
  | .divide =>
    if b.isZero then .error .divisionByZero else orOverflow op l r ((a.div b).map .decimal)
  | .modulo =>
    if b.isZero then .error .divisionByZero else orOverflow op l r ((a.rem b).map .decimal)
  | .unaryMinus | .unaryPlus => .error (noArithmetic op l r)

/-- The remainder of the division toward zero. The divisor -1 leaves nothing, but the least integer
cannot be divided by it. -/
def remainder (a b : Int64) : Option Int64 :=
  if a = Int64.minValue ∧ b = -1 then none else int64? (a.toInt.tmod b.toInt)

def integers (a b : Int64) (op : ArithmeticOperator) : Outcome Value :=
  let l := Value.integer a
  let r := Value.integer b
  match op with
  | .plus => orOverflow op l r ((int64? (a.toInt + b.toInt)).map .integer)
  | .minus => orOverflow op l r ((int64? (a.toInt - b.toInt)).map .integer)
  | .multiply => orOverflow op l r ((int64? (a.toInt * b.toInt)).map .integer)
  -- a quotient of integers is a decimal, whole or not
  | .divide => decimals (.ofInt64 a) (.ofInt64 b) op
  | .modulo =>
    if b = 0 then .error .divisionByZero else orOverflow op l r ((remainder a b).map .integer)
  | .unaryMinus | .unaryPlus => .error (noArithmetic op l r)

def numbers (l r : Value) (op : ArithmeticOperator) : Outcome Value :=
  match op with
  | .unaryMinus => negateNumber l
  | .unaryPlus => if l.isNumeric then .ok l else .error (refuse l r)
  | _ =>
    match l, r with
    | .integer a, .integer b => integers a b op
    | _, _ =>
      match l.asDecimal?, r.asDecimal? with
      | some a, some b => decimals a b op
      | _, _ => .error (refuse l r)

/-! ## Texts -/

/-- A string on one side is joined with the display text of whatever stands on the other. -/
def texts (l r : Value) (op : ArithmeticOperator) : Outcome Value :=
  if l.asString?.isSome || r.asString?.isSome then
    match op with
    | .plus => .ok (.string (l.text ++ r.text))
    | _ => .error (noArithmetic op l r)
  else .error (refuse l r)

/-! ## Points in time and intervals -/

/-- The result of PLUS or MINUS, with `left` and `right` as the operands that an overflow names. -/
def plusOrMinus (l r : Value) (op : ArithmeticOperator) (left right : Value)
    (plus minus : Option Value) : Outcome Value :=
  match op with
  | .plus => orOverflow op left right plus
  | .minus => orOverflow op left right minus
  | _ => .error (noArithmetic op l r)

def combine (a b : Interval) (l r : Value) (op : ArithmeticOperator) : Outcome Value :=
  plusOrMinus l r op (.interval a) (.interval b) ((a.add b).map .interval) ((a.sub b).map .interval)

def moveDate (d : Date) (i : Interval) (l r : Value) (op : ArithmeticOperator) :
    Outcome Value :=
  plusOrMinus l r op (.date d) (.interval i) ((i.addToDate d).map .date)
    ((i.subtractFromDate d).map .date)

def moveInstant (t : Instant) (i : Interval) (l r : Value) (op : ArithmeticOperator) :
    Outcome Value :=
  plusOrMinus l r op (.instant t) (.interval i) ((i.addTo t).map .instant)
    ((i.subtractFrom t).map .instant)

/-- Arithmetic with a date: a shift on either side of PLUS, and behind MINUS only the interval. -/
def dates (l r : Value) (op : ArithmeticOperator) : Outcome Value :=
  match l, r with
  | .interval a, .interval b => combine a b l r op
  | .date d, .interval i => moveDate d i l r op
  | .interval i, .date d =>
    if op = .plus then moveDate d i l r op else .error (noArithmetic op l r)
  | _, _ => .error (refuse l r)

/-- Arithmetic with a local date shifts the instant at which it starts. -/
def localDates (start : Date → Outcome Instant) (l r : Value) (op : ArithmeticOperator) :
    Outcome Value :=
  match l, r with
  | .interval a, .interval b => combine a b l r op
  | .date d, .interval i => do moveInstant (← start d) i l r op
  | .interval i, .date d =>
    if op = .plus then do moveInstant (← start d) i l r op
    else .error (noArithmetic op l r)
  | _, _ => .error (refuse l r)

def instants (l r : Value) (op : ArithmeticOperator) : Outcome Value :=
  match l, r with
  | .interval a, .interval b => combine a b l r op
  | .instant t, .interval i => moveInstant t i l r op
  | .interval i, .instant t =>
    if op = .plus then moveInstant t i l r op else .error (noArithmetic op l r)
  | _, _ => .error (refuse l r)

def negateInterval (a : Interval) : Outcome Value :=
  match a.neg with
  | some b => .ok (.interval b)
  | none => .error (.overflow (.negate (.interval a)))

def intervals (l r : Value) (op : ArithmeticOperator) : Outcome Value :=
  match l with
  | .interval a =>
    match op with
    | .unaryMinus => negateInterval a
    | .unaryPlus => .ok l
    | _ =>
      match r with
      | .interval b => combine a b l r op
      | _ => .error (refuse l r)
  | _ => .error (refuse l r)

def calculate (env : Environment) (ctx : Context) (rule : ArithmeticRule)
    (target leftType rightType : TypeDecl) (l r : Value) (op : ArithmeticOperator) :
    Outcome Value :=
  match rule with
  | .numeric => numbers l r op
  | .string => texts l r op
  | .date => dates l r op
  | .localDate => localDates env.startOfDay l r op
  | .timestamp => instants l r op
  | .interval => intervals l r op
  | .host name => env.host.calculate name ctx target leftType rightType l r op

end ArithmeticRule

/-- Applies an operator by the rule of the target type. -/
def Environment.calculate (env : Environment) (ctx : Context)
    (target leftType rightType : TypeDecl) (l r : Value) (op : ArithmeticOperator) :
    Outcome Value :=
  match target.arithmetic with
  | some rule => rule.calculate env ctx target leftType rightType l r op
  | none => .error (.missingInterpreter Capability.arithmetic.name target.name)

end TypedExpr
