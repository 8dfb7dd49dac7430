import TypedExpr.Declaration

/-!
# Domain models

A model registers types by name, attributes by owner and name, functions by name without regard to
ASCII case, and converters by a pair of kinds. Registering again replaces the declaration and keeps
its place.
-/

namespace TypedExpr

/-- Converters by the kinds they lead from and to. -/
structure Converters where
  entries : List ((ValueKind × ValueKind) × Converter)
  deriving Repr

namespace Converters

def empty : Converters := ⟨[]⟩

def register (r : Converters) (source target : ValueKind) (c : Converter) :
    Converters :=
  ⟨Dictionary.insert r.entries (source, target) c⟩

def get? (r : Converters) (source target : ValueKind) : Option Converter :=
  Dictionary.get? r.entries (source, target)

def size (r : Converters) : Nat := r.entries.length

def isEmpty (r : Converters) : Bool := r.entries.isEmpty

@[simp]
theorem get?_register (r : Converters) (source target s t : ValueKind) (c : Converter) :
    (r.register source target c).get? s t =
      if source = s ∧ target = t then some c else r.get? s t := by
  simp [register, get?]

end Converters

structure Model where
  types : List (String × TypeDecl)
  attributes : List ((String × String) × Attribute)
  functions : List (String × FunctionDecl)
  converters : Converters
  deriving Repr

namespace Model

def empty : Model := ⟨[], [], [], .empty⟩

/-- The name under which a function is registered. -/
def functionKey (name : String) : String := name.map Char.toUpper

def addType (m : Model) (t : TypeDecl) : Model :=
  { m with types := Dictionary.insert m.types t.name t }

def addAttribute (m : Model) (a : Attribute) : Model :=
  { m with attributes := Dictionary.insert m.attributes (a.owner, a.name) a }

def addFunction (m : Model) (f : FunctionDecl) : Model :=
  { m with functions := Dictionary.insert m.functions (functionKey f.name) f }

def addConverter (m : Model) (source target : ValueKind) (c : Converter) : Model :=
  { m with converters := m.converters.register source target c }

def type? (m : Model) (name : String) : Option TypeDecl := Dictionary.get? m.types name

/-- The types in the order in which their names were first registered. -/
def allTypes (m : Model) : List TypeDecl := Dictionary.values m.types

def attribute? (m : Model) (owner name : String) : Option Attribute :=
  Dictionary.get? m.attributes (owner, name)

/-- The attributes of one entity type, in order of first registration. -/
def attributesOf (m : Model) (owner : String) : List Attribute :=
  Dictionary.values (m.attributes.filter (·.1.1 == owner))

def function? (m : Model) (name : String) : Option FunctionDecl :=
  Dictionary.get? m.functions (functionKey name)

def converter? (m : Model) (source target : ValueKind) : Option Converter :=
  m.converters.get? source target

end Model

end TypedExpr
