import TypedExpr.Evaluation

/-!
# Built-in rules

The rules of this library, as opposed to those that a host supplies by name, and the expressions
that use no others. A built-in rule sees its operands and the system's zone; it never looks at the
context.
-/

namespace TypedExpr

/-! ## Rules -/

def ComparisonRule.isBuiltIn : ComparisonRule → Bool
  | .host _ => false
  | _ => true

def ArithmeticRule.isBuiltIn : ArithmeticRule → Bool
  | .host _ => false
  | _ => true

def Adapter.isBuiltIn : Adapter → Bool
  | .host _ => false
  | _ => true

def Accessor.isBuiltIn : Accessor → Bool
  | .host _ => false
  | _ => true

def Invoker.isBuiltIn : Invoker → Bool
  | .host _ => false
  | _ => true

def Converter.isBuiltIn : Converter → Bool
  | .host _ => false
  | _ => true

/-! ## Declarations

An empty slot holds no rule of a host either. -/

/-- Whether values of the type are compared by a built-in rule, if at all. -/
def TypeDecl.comparesBuiltIn (t : TypeDecl) : Bool := t.comparison.all ComparisonRule.isBuiltIn

def TypeDecl.isBuiltIn (t : TypeDecl) : Bool :=
  t.comparesBuiltIn && t.arithmetic.all ArithmeticRule.isBuiltIn && t.adapter.all Adapter.isBuiltIn

namespace TypeDecl

variable {t : TypeDecl}

theorem comparison_isBuiltIn (h : t.comparesBuiltIn) {rule : ComparisonRule}
    (hrule : t.comparison = some rule) : rule.isBuiltIn := by
  rw [comparesBuiltIn, hrule] at h
  exact h

theorem isBuiltIn_iff : t.isBuiltIn ↔
    t.comparesBuiltIn ∧ t.arithmetic.all ArithmeticRule.isBuiltIn ∧
      t.adapter.all Adapter.isBuiltIn := by
  rw [isBuiltIn, Bool.and_eq_true, Bool.and_eq_true, and_assoc]

end TypeDecl

def Attribute.isBuiltIn (a : Attribute) : Bool :=
  a.type.isBuiltIn && a.accessor.all Accessor.isBuiltIn && a.adapter.all Adapter.isBuiltIn

def Parameter.isBuiltIn (p : Parameter) : Bool := p.adapter.all Adapter.isBuiltIn

def FunctionDecl.isBuiltIn (f : FunctionDecl) : Bool :=
  f.resultType.isBuiltIn && f.invoker.all Invoker.isBuiltIn && f.resultAdapter.all Adapter.isBuiltIn

def Model.convertsBuiltIn (m : Model) : Bool := m.converters.entries.all (·.2.isBuiltIn)

/-! ## Expressions -/

mutual

def Expr.isBuiltIn : Expr → Bool
  | .scalar type _ => type.isBuiltIn
  | .collection type items => type.isBuiltIn && allBuiltIn items
  | .root _ rootType attributes => rootType.isBuiltIn && attributes.all Attribute.isBuiltIn
  | .path base attributes => base.isBuiltIn && attributes.all Attribute.isBuiltIn
  | .factor _ operand => operand.isBuiltIn
  | .arithmetic type _ left right => type.isBuiltIn && left.isBuiltIn && right.isBuiltIn
  | .call function bindings => function.isBuiltIn && bindingsBuiltIn bindings
  | .predicate type p => type.isBuiltIn && p.isBuiltIn

def allBuiltIn : List Expr → Bool
  | [] => true
  | e :: rest => e.isBuiltIn && allBuiltIn rest

def bindingsBuiltIn : List (Parameter × Expr) → Bool
  | [] => true
  | (p, e) :: rest => p.isBuiltIn && e.isBuiltIn && bindingsBuiltIn rest

def Predicate.isBuiltIn : Predicate → Bool
  | .comparison _ _ left right => left.isBuiltIn && right.isBuiltIn
  | .between _ left lower upper => left.isBuiltIn && lower.isBuiltIn && upper.isBuiltIn
  | .isIn _ left items => left.isBuiltIn && allBuiltIn items
  | .compound _ _ members => membersBuiltIn members
  | .isNull _ operand => operand.isBuiltIn
  | .isEmpty _ operand => operand.isBuiltIn
  | .holds _ operand => operand.isBuiltIn

def membersBuiltIn : List Predicate → Bool
  | [] => true
  | p :: rest => p.isBuiltIn && membersBuiltIn rest

end

theorem pathType_isBuiltIn {start : TypeDecl} {attributes : List Attribute}
    (hstart : start.isBuiltIn) (h : attributes.all Attribute.isBuiltIn) :
    (pathType start attributes).isBuiltIn := by
  unfold pathType
  cases hlast : attributes.getLast? with
  | none => exact hstart
  | some a =>
    have ha := List.all_eq_true.mp h a (List.mem_of_getLast? hlast)
    simp only [Attribute.isBuiltIn, Bool.and_eq_true] at ha
    exact ha.1.1

theorem Expr.type_isBuiltIn : ∀ {e : Expr}, e.isBuiltIn → e.type.isBuiltIn
  | .scalar _ _, h => by
    simp only [isBuiltIn] at h
    exact h
  | .collection _ _, h => by
    simp only [isBuiltIn, Bool.and_eq_true] at h
    exact h.1
  | .root _ _ _, h => by
    simp only [isBuiltIn, Bool.and_eq_true] at h
    exact pathType_isBuiltIn h.1 h.2
  | .path base _, h => by
    simp only [isBuiltIn, Bool.and_eq_true] at h
    exact pathType_isBuiltIn (base.type_isBuiltIn h.1) h.2
  | .factor _ operand, h => by
    simp only [isBuiltIn] at h
    exact operand.type_isBuiltIn h
  | .arithmetic _ _ _ _, h => by
    simp only [isBuiltIn, Bool.and_eq_true] at h
    exact h.1.1
  | .call _ _, h => by
    simp only [isBuiltIn, FunctionDecl.isBuiltIn, Bool.and_eq_true] at h
    exact h.1.1.1
  | .predicate _ _, h => by
    simp only [isBuiltIn, Bool.and_eq_true] at h
    exact h.1

theorem Expr.comparesBuiltIn (e : Expr) (h : e.isBuiltIn) : e.type.comparesBuiltIn :=
  (TypeDecl.isBuiltIn_iff.mp (type_isBuiltIn h)).1

end TypedExpr
