import TypedExpr.Declaration

/-!
# Expressions

Typed expression trees, as their constructors build them. Every name is resolved: a path holds the
attributes it reads and a call the function it calls. The type of a sign is then that of its operand,
the type of a path that of its last attribute and the type of a call its function's result type, so
that these nodes store no type beside their parts; `Expr.type` reads it off. A predicate carries a
flag that negates its answer.
-/

namespace TypedExpr

mutual

inductive Expr where
  /-- A fixed value. -/
  | scalar (type : TypeDecl) (value : Value)
  /-- A collection of whatever its items yield. -/
  | collection (type : TypeDecl) (items : List Expr)
  /-- Attributes read one after the other from a root. -/
  | root (name : String) (rootType : TypeDecl) (attributes : List Attribute)
  /-- Attributes read one after the other from the value of another expression. -/
  | path (base : Expr) (attributes : List Attribute)
  /-- An operand behind a sign. -/
  | factor (inverted : Bool) (operand : Expr)
  /-- An arithmetic operation with a result of the type. -/
  | arithmetic (type : TypeDecl) (op : ArithmeticOperator) (left right : Expr)
  /-- A call with the parameters it binds, in the order in which they are evaluated. -/
  | call (function : FunctionDecl) (bindings : List (Parameter × Expr))
  /-- The answer of a predicate as a value of the type. -/
  | predicate (type : TypeDecl) (p : Predicate)

inductive Predicate where
  | comparison (negated : Bool) (op : ComparisonOperator) (left right : Expr)
  /-- Whether a value lies between two bounds, the bounds included. -/
  | between (negated : Bool) (left lower upper : Expr)
  /-- Whether a value equals one of the items. -/
  | isIn (negated : Bool) (left : Expr) (items : List Expr)
  /-- A conjunction or a disjunction. -/
  | compound (negated conjunction : Bool) (members : List Predicate)
  | isNull (negated : Bool) (operand : Expr)
  | isEmpty (negated : Bool) (operand : Expr)
  /-- A boolean expression. -/
  | holds (negated : Bool) (operand : Expr)

end

namespace Predicate

def isNegated : Predicate → Bool
  | .comparison negated .. => negated
  | .between negated .. => negated
  | .isIn negated .. => negated
  | .compound negated .. => negated
  | .isNull negated _ => negated
  | .isEmpty negated _ => negated
  | .holds negated _ => negated

/-- The predicate with only its own flag flipped. -/
def negate : Predicate → Predicate
  | .comparison negated op left right => .comparison (!negated) op left right
  | .between negated left lower upper => .between (!negated) left lower upper
  | .isIn negated left items => .isIn (!negated) left items
  | .compound negated conjunction members => .compound (!negated) conjunction members
  | .isNull negated operand => .isNull (!negated) operand
  | .isEmpty negated operand => .isEmpty (!negated) operand
  | .holds negated operand => .holds (!negated) operand

@[simp]
theorem isNegated_negate (p : Predicate) : p.negate.isNegated = !p.isNegated := by
  cases p <;> rfl

@[simp]
theorem negate_negate (p : Predicate) : p.negate.negate = p := by
  cases p <;> simp [negate]

end Predicate

/-- The type of the last attribute, or of the start if there is none. -/
def pathType (start : TypeDecl) (attributes : List Attribute) : TypeDecl :=
  (attributes.getLast?.map (·.type)).getD start

namespace Expr

def type : Expr → TypeDecl
  | .scalar type _ => type
  | .collection type _ => type
  | .root _ rootType attributes => pathType rootType attributes
  | .path base attributes => pathType base.type attributes
  | .factor _ operand => operand.type
  | .arithmetic type .. => type
  | .call function _ => function.resultType
  | .predicate type _ => type

/-- The absent value of a type. -/
def null (type : TypeDecl) : Expr := .scalar type .null

/-- A constant of an enumeration type. -/
def constant (type : TypeDecl) (key : String) : Expr :=
  .scalar type (.enumeration type.name key)

end Expr

/-- What a call binds, in the order in which it is evaluated. -/
abbrev Bindings := List (Parameter × Expr)

namespace Bindings

/-- Binds a declared parameter; without one the argument is dropped. -/
def bind? (bs : Bindings) (p : Option Parameter) (argument : Expr) : Bindings :=
  match p with
  | some p => bs ++ [(p, argument)]
  | none => bs

/-- Binds the parameter at a position, if the function declares it. -/
def bindPosition (f : FunctionDecl) (bs : Bindings) (position : Nat) (argument : Expr) :
    Bindings :=
  bs.bind? (f.parameter? position) argument

/-- Binds the first parameter of a name, if the function declares it. -/
def bindName (f : FunctionDecl) (bs : Bindings) (name : String) (argument : Expr) : Bindings :=
  bs.bind? (f.parameterNamed? name) argument

end Bindings

end TypedExpr
