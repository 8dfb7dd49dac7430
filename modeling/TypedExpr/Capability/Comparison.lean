import TypedExpr.Environment

/-!
# Comparison

What each comparison rule answers. A rule refuses a left operand that is not its own with an
illegal argument, and a right operand that does not go with it as an unsupported operator.

Numbers are ordered as numbers, strings by code points, dates and instants along the calendar; a
date counts as the instant at which it starts. Booleans, enumeration constants, entities and
intervals are equal or not and have no order. An instant hands a date on its right over to the rule
of the date's type, with the operands and the operator turned round, so that both orders of the
operands agree.
-/

namespace TypedExpr

open EvalError

/-- The order of two numbers: an integer beside a decimal counts as that decimal. -/
def Value.numericOrder? : Value → Value → Option Ordering
  | .integer a, .integer b => some (Ord.compare a.toInt b.toInt)
  | l, r => do return (← l.asDecimal?).compare (← r.asDecimal?)

/-- Whether a value can only be equal to others of its kind or not. -/
def Value.isUnordered : Value → Bool
  | .boolean _ | .enumeration .. | .entity .. => true
  | _ => false

namespace ComparisonRule

def numbers (l r : Value) (op : ComparisonOperator) : Outcome Truth :=
  if l.isNumeric then
    match l.numericOrder? r with
    | some o => .ok (some (op.test o))
    | none => .error (noComparison op l r)
  else .error (refuse l r)

def strings (l r : Value) (op : ComparisonOperator) : Outcome Truth :=
  match l, r with
  | .string a, .string b => .ok (some (op.test (compareOfLessAndEq a b)))
  | .string _, _ => .error (noComparison op l r)
  | _, _ => .error (refuse l r)

def unordered (l r : Value) (op : ComparisonOperator) : Outcome Truth :=
  if l.isUnordered then
    if l.kind = r.kind ∧ op.isEquality then
      .ok (some (if op = .equal then l.same r else !l.same r))
    else .error (noComparison op l r)
  else .error (refuse l r)

/-- Compares a date; beside an instant it counts as its start. -/
def dates (start : Date → Outcome Instant) (l r : Value) (op : ComparisonOperator) :
    Outcome Truth :=
  match l with
  | .date d =>
    match r with
    | .date e => .ok (some (op.test (d.compare e)))
    | .instant t => do return some (op.test ((← start d).compare t))
    | _ => .error (noComparison op l r)
  | _ => .error (refuse l r)

/-- Compares an instant; a date on the right counts as its start in UTC. -/
def instants (l r : Value) (op : ComparisonOperator) : Outcome Truth :=
  match l with
  | .instant t =>
    match r with
    | .instant u => .ok (some (op.test (t.compare u)))
    | .date d => .ok (some (op.test (t.compare (Instant.startOfDay d))))
    | _ => .error (noComparison op l r)
  | _ => .error (refuse l r)

/-- Intervals are equal part by part: twelve months are not a year. -/
def intervals (l r : Value) (op : ComparisonOperator) : Outcome Truth :=
  match l with
  | .interval a =>
    match r with
    | .interval b =>
      match op with
      | .equal => .ok (some (a == b))
      | .notEqual => .ok (some (a != b))
      | _ => .error (noComparison op l r)
    | _ => .error (noComparison op l r)
  | _ => .error (refuse l r)

/-- The answer of a rule on its own operands. -/
def compareOwn (env : Environment) (ctx : Context) (rule : ComparisonRule)
    (leftType rightType : TypeDecl) (l r : Value) (op : ComparisonOperator) : Outcome Truth :=
  match rule with
  | .numeric => numbers l r op
  | .string => strings l r op
  | .equality => unordered l r op
  | .date => dates (fun d => .ok (Instant.startOfDay d)) l r op
  | .localDate => dates env.startOfDay l r op
  | .timestamp => instants l r op
  | .interval => intervals l r op
  | .host name => env.host.compare name ctx leftType rightType l r op

/-- The answer of a rule: true, false or unknown. -/
def compare (env : Environment) (ctx : Context) (rule : ComparisonRule)
    (leftType rightType : TypeDecl) (l r : Value) (op : ComparisonOperator) : Outcome Truth :=
  match rule, l, r, rightType.comparison with
  | .timestamp, .instant _, .date _, some other =>
    -- the date's own rule knows the instant at which it starts
    other.compareOwn env ctx rightType leftType r l op.converse
  | _, _, _, _ => rule.compareOwn env ctx leftType rightType l r op

end ComparisonRule

/-- Compares two present values by the rule of the left type. -/
def Environment.compare (env : Environment) (ctx : Context) (leftType rightType : TypeDecl)
    (l r : Value) (op : ComparisonOperator) : Outcome Truth :=
  match leftType.comparison with
  | some rule => rule.compare env ctx leftType rightType l r op
  | none => .error (.missingInterpreter Capability.comparison.name leftType.name)

end TypedExpr
