import TypedExpr.Environment

/-!
# Conversion

An adapter takes values between the model's form and the internal one: a model may keep its
instants as milliseconds since the start of 1970. A converter makes a value of another kind. The
absent value passes every adapter of this library.
-/

namespace TypedExpr

namespace Adapter

/-- An integer becomes the instant that many milliseconds after the start of 1970. -/
def ofMillis (v : Value) (t : TypeDecl) : Outcome Value :=
  match v with
  | .integer millis =>
    match Instant.ofEpochMillis? millis.toInt with
    | some instant => .ok (.instant instant)
    | none => .error (.illegalArgument (.millis millis t.name))
  | .null | .instant _ => .ok v
  | _ => .error (.typeMismatch ValueKind.integer.name v.kindName)

/-- An instant becomes its whole milliseconds since the start of 1970, which 64 bits always hold. -/
def toMillis (v : Value) : Outcome Value :=
  match v with
  | .instant instant => .ok (.integer (Int64.ofInt instant.epochMillis))
  | .null | .integer _ => .ok v
  | _ => .error (.typeMismatch ValueKind.instant.name v.kindName)

def toInternal (env : Environment) (ctx : Context) (a : Adapter) (v : Value) (t : TypeDecl) :
    Outcome Value :=
  match a with
  | .identity => .ok v
  | .epochMillis => ofMillis v t
  | .host name => env.host.toInternal name ctx v t

def toModel (env : Environment) (ctx : Context) (a : Adapter) (v : Value) (t : TypeDecl) :
    Outcome Value :=
  match a with
  | .identity => .ok v
  | .epochMillis => toMillis v
  | .host name => env.host.toModel name ctx v t

end Adapter

namespace Environment

/-- Takes a value to the internal form, unchanged without an adapter. -/
def toInternal (env : Environment) (ctx : Context) (a : Option Adapter) (v : Value)
    (t : TypeDecl) : Outcome Value :=
  match a with
  | some a => a.toInternal env ctx v t
  | none => .ok v

/-- Takes a value to the model's form, unchanged without an adapter. -/
def toModel (env : Environment) (ctx : Context) (a : Option Adapter) (v : Value)
    (t : TypeDecl) : Outcome Value :=
  match a with
  | some a => a.toModel env ctx v t
  | none => .ok v

end Environment

namespace Converter

def wrongKind (wanted : ValueKind) (v : Value) : EvalError :=
  .typeMismatch wanted.name v.kindName

def toDecimal : Value → Outcome Value
  | .integer i => .ok (.decimal (.ofInt64 i))
  | v => .error (wrongKind .integer v)

/-- A date becomes the instant at which it starts in UTC. -/
def toInstant : Value → Outcome Value
  | .date d => .ok (.instant (.startOfDay d))
  | v => .error (wrongKind .date v)

/-- An instant becomes its date in UTC. -/
def toDate : Value → Outcome Value
  | .instant t => .ok (.date t.date)
  | v => .error (wrongKind .instant v)

def convert (env : Environment) (ctx : Context) (c : Converter) (v : Value) (t : TypeDecl) :
    Outcome Value :=
  match c with
  | .integerToDecimal => toDecimal v
  | .dateToInstant => toInstant v
  | .instantToDate => toDate v
  | .display => .ok (.string v.text)
  | .host name => env.host.convert name ctx v t

end Converter

end TypedExpr
