import TypedExpr.Arguments
import TypedExpr.Calendar.Zone
import TypedExpr.Context

/-!
# Environments

What evaluation takes from outside: the system's time zone and the meaning of the rules that a host
supplies by name.
-/

namespace TypedExpr

/-- The rules of a host, by name. -/
structure Host where
  /-- Compares two values of the given types. -/
  compare : String → Context → (leftType rightType : TypeDecl) → (left right : Value) →
    ComparisonOperator → Outcome Truth
  /-- Applies an operator for a result of the target type. -/
  calculate : String → Context → (target leftType rightType : TypeDecl) → (left right : Value) →
    ArithmeticOperator → Outcome Value
  /-- Takes a value of a type from the model's form to the internal one. -/
  toInternal : String → Context → Value → TypeDecl → Outcome Value
  /-- Takes a value of a type from the internal form to the model's. -/
  toModel : String → Context → Value → TypeDecl → Outcome Value
  /-- Reads an attribute. -/
  read : String → Context → Value → Attribute → Outcome Value
  /-- Calls a function. -/
  invoke : String → Context → FunctionDecl → Arguments → Outcome Value
  /-- Converts a value that an expression of the type produced. -/
  convert : String → Context → Value → TypeDecl → Outcome Value

/-- The host without rules: whatever is asked for by name is refused. -/
def Host.bare : Host :=
  let refuse (name : String) : EvalError := .illegalArgument (.host ("no rule " ++ name))
  { compare := fun name _ _ _ _ _ _ => .error (refuse name)
    calculate := fun name _ _ _ _ _ _ _ => .error (refuse name)
    toInternal := fun name _ _ _ => .error (refuse name)
    toModel := fun name _ _ _ => .error (refuse name)
    read := fun name _ _ _ => .error (refuse name)
    invoke := fun name _ _ _ => .error (refuse name)
    convert := fun name _ _ _ => .error (refuse name) }

structure Environment where
  zone : Zone
  host : Host

/-- A system in UTC without a host. -/
def Environment.utc : Environment := ⟨.fixed 0, .bare⟩

/-- The instant at which a date starts in the system's zone. -/
def Environment.startOfDay (env : Environment) (d : Date) : Outcome Instant :=
  match env.zone.startOfDay d with
  | some t => .ok t
  | none => .error (.illegalArgument (.startOfDay d))

end TypedExpr
