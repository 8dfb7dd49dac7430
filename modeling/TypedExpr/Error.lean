import TypedExpr.Operator
import TypedExpr.Value

/-!
# Evaluation errors

An error names its cause; `kind` groups the causes and `message` words them. A host's rules may raise
every kind of error as well, with words of their own where those of this library are made from
values. An absent value is never an error.
-/

namespace TypedExpr

/-- The capabilities that a type can declare. -/
inductive Capability where
  | comparison
  | arithmetic
  | adapter
  deriving DecidableEq, Repr

def Capability.name : Capability → String
  | .comparison => "comparison operator interpreter"
  | .arithmetic => "domain operator interpreter"
  | .adapter => "type adapter"

/-- What an interpreter or a function does not accept. -/
inductive Illegal where
  /-- Operands of foreign kinds. -/
  | operands (left right : Value)
  /-- Milliseconds beyond the calendar. -/
  | millis (count : Int64) (typeName : String)
  /-- An attribute of a value that has none. -/
  | unreadable (attributeName kindName : String)
  /-- An argument of the wrong sort. -/
  | argument (function wanted kindName : String)
  /-- A power that is no real number. -/
  | power (base exponent : String)
  /-- A date that starts at no instant of the zone. -/
  | startOfDay (date : Date)
  /-- Whatever a host refuses, in its own words. -/
  | host (reason : String)
  deriving Repr

/-- An operand that an operator does not take. -/
inductive Operand where
  | value (v : Value)
  /-- Whatever a host says of it, in its own words. -/
  | host (text : String)
  deriving Repr

/-- The operations whose results can be out of range. -/
inductive Operation where
  | negate (operand : Value)
  | apply (operator : ArithmeticOperator) (left right : Value)
  | power (base exponent : String)
  /-- Whatever a host computes, in its own words. -/
  | host (text : String)
  deriving Repr

inductive EvalError where
  | illegalArgument (cause : Illegal)
  | unsupportedOperator (operator : String) (left right : Operand)
  /-- The capability is named, since a host may miss others than those of types. -/
  | missingInterpreter (capability typeName : String)
  | missingAccessor (owner attributeName : String)
  | missingInvoker (function : String)
  | unboundRoot (root : String)
  | noConverter (source target : ValueKind)
  | indexOutOfBounds (position arity : Nat)
  | typeMismatch (expected found : String)
  | divisionByZero
  | overflow (operation : Operation)
  deriving Repr

/-- The outcome of a step of evaluation. -/
abbrev Outcome (α : Type) := Except EvalError α

/-- The classes of errors. -/
inductive ErrorKind where
  | illegalArgument
  | unsupportedOperator
  | missingInterpreter
  | missingAccessor
  | missingInvoker
  | unboundRoot
  | noConverter
  | indexOutOfBounds
  | typeMismatch
  | divisionByZero
  | overflow
  deriving DecidableEq, Repr

def Illegal.message : Illegal → String
  | .operands left right => "[" ++ left.diagnosticText ++ ", " ++ right.diagnosticText ++ "]"
  | .millis count typeName =>
    String.ofList (Text.signed count.toInt) ++ " ms is out of range for " ++ typeName
  | .unreadable attributeName kindName =>
    "cannot read " ++ attributeName ++ " from " ++ kindName ++ " value"
  | .argument function wanted kindName =>
    function ++ " expects a " ++ wanted ++ " argument, got " ++ kindName
  | .power base exponent => "POW(" ++ base ++ ", " ++ exponent ++ ") has no real result"
  | .startOfDay date => date.text ++ " has no local start of day"
  | .host reason => reason

def Operand.text : Operand → String
  | .value v => v.diagnosticText
  | .host text => text

def Operation.text : Operation → String
  | .negate operand => "-" ++ operand.text
  | .apply operator left right => left.text ++ " " ++ operator.symbol ++ " " ++ right.text
  | .power base exponent => "POW(" ++ base ++ ", " ++ exponent ++ ")"
  | .host text => text

namespace EvalError

def kind : EvalError → ErrorKind
  | .illegalArgument _ => .illegalArgument
  | .unsupportedOperator .. => .unsupportedOperator
  | .missingInterpreter .. => .missingInterpreter
  | .missingAccessor .. => .missingAccessor
  | .missingInvoker _ => .missingInvoker
  | .unboundRoot _ => .unboundRoot
  | .noConverter .. => .noConverter
  | .indexOutOfBounds .. => .indexOutOfBounds
  | .typeMismatch .. => .typeMismatch
  | .divisionByZero => .divisionByZero
  | .overflow _ => .overflow

/-- The refusal of operands of foreign kinds. -/
def refuse (left right : Value) : EvalError := .illegalArgument (.operands left right)

/-- The refusal of operands that no comparison by the operator takes together. -/
def noComparison (op : ComparisonOperator) (left right : Value) : EvalError :=
  .unsupportedOperator op.name (.value left) (.value right)

/-- The refusal of operands to which the operator does not apply. -/
def noArithmetic (op : ArithmeticOperator) (left right : Value) : EvalError :=
  .unsupportedOperator op.name (.value left) (.value right)

def message : EvalError → String
  | .illegalArgument cause => "Illegal arguments: " ++ cause.message
  | .unsupportedOperator operator left right =>
    "Can't handle the operator " ++ operator ++ " for the arguments [" ++ left.text ++ ", " ++
      right.text ++ "]"
  | .missingInterpreter capability typeName =>
    "No " ++ capability ++ " available for type: " ++ typeName
  | .missingAccessor owner attributeName =>
    "No attribute accessor available for attribute: " ++ owner ++ "." ++ attributeName
  | .missingInvoker function => "No function invoker available for function: " ++ function
  | .unboundRoot root => "Root alias '" ++ root ++ "' is not bound in the evaluation context"
  | .noConverter source target =>
    "No converter found for converting " ++ source.name ++ " to " ++ target.name
  | .indexOutOfBounds position arity =>
    "Argument position " ++ toString position ++ " out of bounds for arity " ++ toString arity
  | .typeMismatch expected found => "Type mismatch: expected " ++ expected ++ ", found " ++ found
  | .divisionByZero => "Division by zero"
  | .overflow operation => "Arithmetic overflow in " ++ operation.text

end EvalError

end TypedExpr
