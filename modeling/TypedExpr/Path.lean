import TypedExpr.Capability.Conversion

/-!
# Paths

Attributes read one after the other from a value. An attribute that an entity does not carry is
absent, and a value that is absent on the way makes the whole path absent.
-/

namespace TypedExpr

/-- A value in the internal form and the adapter that leads back to the model's form. -/
structure Adapted where
  value : Value
  adapter : Option Adapter
  deriving Repr

namespace Adapted

/-- A value without an adapter. -/
def plain (v : Value) : Adapted := ⟨v, none⟩

def absent : Adapted := plain .null

def isNull (e : Adapted) : Bool := e.value.isNull

end Adapted

namespace Accessor

/-- Reads an attribute by its name from an entity. -/
def readEntity (v : Value) (a : Attribute) : Outcome Value :=
  match v with
  | .entity _ attributes => .ok ((Dictionary.get? attributes a.name).getD .null)
  | _ => .error (.illegalArgument (.unreadable a.text v.kindName))

def read (env : Environment) (ctx : Context) (accessor : Accessor) (v : Value) (a : Attribute) :
    Outcome Value :=
  match accessor with
  | .entity => readEntity v a
  | .host name => env.host.read name ctx v a

end Accessor

/-- Reads an attribute from a present value and takes it to the internal form; its adapter is then
in effect. -/
def Attribute.readFrom (env : Environment) (ctx : Context) (v : Value) (a : Attribute) :
    Outcome Adapted :=
  match a.accessor with
  | none => .error (.missingAccessor a.owner a.name)
  | some accessor => do
    let read ← accessor.read env ctx v a
    let internal ← env.toInternal ctx a.adapter read a.type
    .ok ⟨internal, a.adapter⟩

/-- Follows a path; the adapter of its last attribute is in effect at its end. -/
def followPath (env : Environment) (ctx : Context) (v : Adapted) : List Attribute → Outcome Adapted
  | [] => .ok v
  | a :: rest =>
    if v.isNull then .ok .absent
    else do
      let next ← a.readFrom env ctx v.value
      followPath env ctx next rest

end TypedExpr
