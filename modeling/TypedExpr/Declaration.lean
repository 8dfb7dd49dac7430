import TypedExpr.Capability.Rule
import TypedExpr.Error

/-!
# Types, attributes and functions

The declarations that expressions refer to. A declaration without a rule in one of its slots is
complete; evaluation reports the gap only when it needs the rule.
-/

namespace TypedExpr

/-- The shapes of types. -/
inductive Shape (τ : Type) where
  | basic
  | entity
  | enumeration (keys : List String)
  | collection (element : τ)
  deriving Repr

inductive TypeKind where
  | basic
  | entity
  | enumeration
  | collection
  deriving DecidableEq, Repr

def TypeKind.name : TypeKind → String
  | .basic => "Basic"
  | .entity => "Entity"
  | .enumeration => "Enum"
  | .collection => "Collection"

def Shape.kind {τ : Type} : Shape τ → TypeKind
  | .basic => .basic
  | .entity => .entity
  | .enumeration _ => .enumeration
  | .collection _ => .collection

structure TypeDecl where
  name : String
  shape : Shape TypeDecl
  comparison : Option ComparisonRule
  arithmetic : Option ArithmeticRule
  adapter : Option Adapter
  deriving Repr

namespace TypeDecl

/-- A type without capabilities. -/
def bare (name : String) (shape : Shape TypeDecl) : TypeDecl := ⟨name, shape, none, none, none⟩

def kind (t : TypeDecl) : TypeKind := t.shape.kind

def isCollection (t : TypeDecl) : Bool := t.kind == .collection

/-- The type of the items of a collection type. -/
def element? (t : TypeDecl) : Option TypeDecl :=
  match t.shape with
  | .collection element => some element
  | _ => none

/-- The constants of an enumeration type. -/
def keys (t : TypeDecl) : List String :=
  match t.shape with
  | .enumeration keys => keys
  | _ => []

def has (t : TypeDecl) : Capability → Bool
  | .comparison => t.comparison.isSome
  | .arithmetic => t.arithmetic.isSome
  | .adapter => t.adapter.isSome

/-- Types are the same if name and kind agree. -/
def same (a b : TypeDecl) : Bool := a.name == b.name && a.kind == b.kind

end TypeDecl

/-- A named part of an entity type. -/
structure Attribute where
  owner : String
  name : String
  type : TypeDecl
  accessor : Option Accessor
  adapter : Option Adapter
  deriving Repr

/-- The name together with its owner's. -/
def Attribute.text (a : Attribute) : String := a.owner ++ "." ++ a.name

/-- A declared argument of a function. -/
structure Parameter where
  name : String
  position : Nat
  type : TypeDecl
  adapter : Option Adapter
  deriving Repr

structure FunctionDecl where
  name : String
  parameters : List Parameter
  resultType : TypeDecl
  invoker : Option Invoker
  resultAdapter : Option Adapter
  deriving Repr

namespace FunctionDecl

/-- A function without parameters. -/
def declare (name : String) (resultType : TypeDecl) : FunctionDecl :=
  ⟨name, [], resultType, none, none⟩

def arity (f : FunctionDecl) : Nat := f.parameters.length

/-- Adds a parameter behind the others; its position is the arity so far. -/
def withParameter (f : FunctionDecl) (name : String) (type : TypeDecl)
    (adapter : Option Adapter) : FunctionDecl :=
  { f with parameters := f.parameters ++ [⟨name, f.arity, type, adapter⟩] }

def parameter? (f : FunctionDecl) (position : Nat) : Option Parameter := f.parameters[position]?

/-- The first parameter of this name. -/
def parameterNamed? (f : FunctionDecl) (name : String) : Option Parameter :=
  f.parameters.find? (·.name == name)

@[simp]
theorem arity_withParameter (f : FunctionDecl) (name : String) (type : TypeDecl)
    (adapter : Option Adapter) : (f.withParameter name type adapter).arity = f.arity + 1 := by
  simp [arity, withParameter]

end FunctionDecl

end TypedExpr
