import TypedExpr.Decimal.Binary
import TypedExpr.Environment
import TypedExpr.Text.Case

/-!
# Calls

What the functions of this library do with their arguments. An absent argument makes the result
absent; an argument of the wrong sort is refused, also beside an absent one.
-/

namespace TypedExpr

namespace Invoker

/-- The string at a position, `none` if absent. -/
def stringAt (function : String) (args : Arguments) (position : Nat) :
    Outcome (Option String) := do
  match ← args.value position with
  | .null => .ok none
  | .string s => .ok (some s)
  | v => .error (.illegalArgument (.argument function ValueKind.string.name v.kindName))

/-- The number at a position in floating point, `none` if absent. -/
def floatAt (function : String) (args : Arguments) (position : Nat) :
    Outcome (Option Float) := do
  match ← args.value position with
  | .null => .ok none
  | v =>
    match v.asDecimal? with
    | some d => .ok (some d.toFloat)
    | none => .error (.illegalArgument (.argument function "numeric" v.kindName))

/-- Maps the string at the first position. -/
def mapString (f : String → String) (function : String) (args : Arguments) : Outcome Value := do
  match ← stringAt function args 0 with
  | some s => .ok (.string (f s))
  | none => .ok .null

/-- The power of two floating point numbers, as the decimal near it in lowest form. -/
def powerOf (base exponent : Float) : Outcome Value :=
  let power := base.pow exponent
  if power.isNaN then
    .error (.illegalArgument (.power (Binary64.text base) (Binary64.text exponent)))
  else
    match Decimal.ofFloat? power with
    | some d => .ok (.decimal d.normalize)
    | none => .error (.overflow (.power (Binary64.text base) (Binary64.text exponent)))

def callPower (function : String) (args : Arguments) : Outcome Value := do
  -- both arguments are checked before an absent one counts
  match ← floatAt function args 0, ← floatAt function args 1 with
  | some base, some exponent => powerOf base exponent
  | _, _ => .ok .null

/-- The number of items of the collection at the first position. -/
def callSize (function : String) (args : Arguments) : Outcome Value := do
  match ← args.value 0 with
  | .null => .ok .null
  | .collection items => .ok (.integer ((int64? items.length).getD Int64.maxValue))
  | v => .error (.illegalArgument (.argument function ValueKind.collection.name v.kindName))

def invoke (env : Environment) (ctx : Context) (i : Invoker) (f : FunctionDecl)
    (args : Arguments) : Outcome Value :=
  match i with
  | .lower => mapString Text.toLower f.name args
  | .upper => mapString Text.toUpper f.name args
  | .power => callPower f.name args
  | .size => callSize f.name args
  | .host name => env.host.invoke name ctx f args

end Invoker

end TypedExpr
