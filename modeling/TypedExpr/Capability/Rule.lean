/-!
# Capability slots

What a type, an attribute, a function or a pair of kinds declares to be applied to its values. Each
slot holds one of the rules of this library or the name of a rule that the host supplies.
-/

namespace TypedExpr

/-- How values of a type are compared. -/
inductive ComparisonRule where
  | numeric
  | string
  | equality
  | date
  | localDate
  | timestamp
  | interval
  | host (name : String)
  deriving DecidableEq, Repr

/-- How arithmetic with a type as its result is done. -/
inductive ArithmeticRule where
  | numeric
  | string
  | date
  | localDate
  | timestamp
  | interval
  | host (name : String)
  deriving DecidableEq, Repr

/-- How values pass between the model's form and the internal one. -/
inductive Adapter where
  | identity
  | epochMillis
  | host (name : String)
  deriving DecidableEq, Repr

/-- How an attribute is read from a value. -/
inductive Accessor where
  | entity
  | host (name : String)
  deriving DecidableEq, Repr

/-- What a function does with its arguments. -/
inductive Invoker where
  | lower
  | upper
  | power
  | size
  | host (name : String)
  deriving DecidableEq, Repr

/-- How a value of one kind becomes a value of another. -/
inductive Converter where
  | integerToDecimal
  | dateToInstant
  | instantToDate
  | display
  | host (name : String)
  deriving DecidableEq, Repr

end TypedExpr
