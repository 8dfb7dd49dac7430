import TypedExpr.Evaluation
import TypedExpr.Standard

/-!
# Typing over the standard model

Which values conform to a standard type, which operands an operator takes, and when an expression
has a type in a context. A type vouches for kinds and for no more: an Integer may hold the decimal
that a division yields, and a collection may hold anything. Local dates are left out, since a local
date may have no start.
-/

namespace TypedExpr

/-- The types of the standard model and the collections over them. -/
inductive StandardType where
  | boolean
  | integer
  | decimal
  | string
  | date
  | timestamp
  | interval
  | collection (element : StandardType)

namespace StandardType

def decl : StandardType → TypeDecl
  | boolean => Standard.boolean
  | integer => Standard.integer
  | decimal => Standard.decimal
  | string => Standard.string
  | date => Standard.date
  | timestamp => Standard.timestamp
  | interval => Standard.interval
  | collection element => Standard.collectionOf element.decl

def isNumeric : StandardType → Bool
  | integer | decimal => true
  | _ => false

/-- Whether the values are points in time, which intervals move. -/
def isPoint : StandardType → Bool
  | date | timestamp => true
  | _ => false

/-- Whether the values have opposites. -/
def isInvertible (t : StandardType) : Bool :=
  t.isNumeric || match t with
    | interval => true
    | _ => false

end StandardType

/-- The values of a type. The absent value is one of every type, and a number is one of both
numeric types. -/
inductive Value.Conforms : Value → StandardType → Prop
  | null {t : StandardType} : Conforms .null t
  | boolean {b : Bool} : Conforms (.boolean b) .boolean
  | integer {i : Int64} {t : StandardType} (ht : t.isNumeric) : Conforms (.integer i) t
  | decimal {d : Decimal} {t : StandardType} (ht : t.isNumeric) : Conforms (.decimal d) t
  | string {s : String} : Conforms (.string s) .string
  | date {d : Date} : Conforms (.date d) .date
  | instant {i : Instant} : Conforms (.instant i) .timestamp
  | interval {i : Interval} : Conforms (.interval i) .interval
  | collection {items : List Value} {t : StandardType} : Conforms (.collection items) (.collection t)

/-- The comparisons that have an answer on every two present operands. -/
inductive Comparable : ComparisonOperator → StandardType → StandardType → Prop
  | numbers {op : ComparisonOperator} {l r : StandardType} (hl : l.isNumeric)
      (hr : r.isNumeric) : Comparable op l r
  | strings {op : ComparisonOperator} : Comparable op .string .string
  | points {op : ComparisonOperator} {l r : StandardType} (hl : l.isPoint) (hr : r.isPoint) :
      Comparable op l r
  | booleans {op : ComparisonOperator} (hop : op.isEquality) : Comparable op .boolean .boolean
  | intervals {op : ComparisonOperator} (hop : op.isEquality) : Comparable op .interval .interval

/-- The operators that move points in time and combine intervals. -/
def ArithmeticOperator.IsShift (op : ArithmeticOperator) : Prop := op = .plus ∨ op = .minus

/-- The operands that an operator combines, and the types that the result can be declared as. -/
inductive Combines : ArithmeticOperator → StandardType → StandardType → StandardType → Prop
  | numbers {op : ArithmeticOperator} {l r t : StandardType} (hop : op.isUnary = false)
      (hl : l.isNumeric) (hr : r.isNumeric) (ht : t.isNumeric) : Combines op l r t
  | textLeft {r : StandardType} : Combines .plus .string r .string
  | textRight {l : StandardType} : Combines .plus l .string .string
  | shift {op : ArithmeticOperator} {point : StandardType} (hop : op.IsShift)
      (hpoint : point.isPoint) : Combines op point .interval point
  | shiftBy {point : StandardType} (hpoint : point.isPoint) : Combines .plus .interval point point
  | intervals {op : ArithmeticOperator} (hop : op.IsShift) :
      Combines op .interval .interval .interval

/-- The functions of one argument, with the types of argument and result. -/
inductive Accepts : FunctionDecl → StandardType → StandardType → Prop
  | lower : Accepts Standard.lower .string .string
  | upper : Accepts Standard.upper .string .string
  | size {t : StandardType} : Accepts Standard.size (.collection t) .integer

mutual

/-- Expressions of a type, with roots that the context binds to values of theirs. -/
inductive HasType (ctx : Context) : Expr → StandardType → Prop
  | scalar {v : Value} {t : StandardType} (hv : v.Conforms t) : HasType ctx (.scalar t.decl v) t
  | root {name : String} {v : Value} {t : StandardType} (hroot : ctx.root? name = some v)
      (hv : v.Conforms t) : HasType ctx (.root name t.decl []) t
  | collection {items : List Expr} {t : StandardType}
      (hitems : HaveTypes ctx (fun _ => True) items) :
      HasType ctx (.collection (StandardType.collection t).decl items) (.collection t)
  | sign {e : Expr} {t : StandardType} (he : HasType ctx e t) : HasType ctx (.factor false e) t
  | inversion {e : Expr} {t : StandardType} (he : HasType ctx e t) (ht : t.isInvertible) :
      HasType ctx (.factor true e) t
  | arithmetic {op : ArithmeticOperator} {left right : Expr} {l r t : StandardType}
      (hleft : HasType ctx left l) (hright : HasType ctx right r) (h : Combines op l r t) :
      HasType ctx (.arithmetic t.decl op left right) t
  | call {f : FunctionDecl} {e : Expr} {argument t : StandardType} (he : HasType ctx e argument)
      (hf : Accepts f argument t) : HasType ctx (.call f (Bindings.bindPosition f [] 0 e)) t
  | predicate {p : Predicate} (hp : WellTyped ctx p) :
      HasType ctx (.predicate Standard.boolean p) .boolean

/-- Lists of expressions whose types all have a property. -/
inductive HaveTypes (ctx : Context) : (StandardType → Prop) → List Expr → Prop
  | nil {P : StandardType → Prop} : HaveTypes ctx P []
  | cons {P : StandardType → Prop} {e : Expr} {t : StandardType} {rest : List Expr}
      (he : HasType ctx e t) (ht : P t) (hrest : HaveTypes ctx P rest) :
      HaveTypes ctx P (e :: rest)

/-- Predicates whose operands can be compared as they ask. -/
inductive WellTyped (ctx : Context) : Predicate → Prop
  | comparison {negated : Bool} {op : ComparisonOperator} {left right : Expr}
      {l r : StandardType} (hleft : HasType ctx left l) (hright : HasType ctx right r)
      (h : Comparable op l r) : WellTyped ctx (.comparison negated op left right)
  | between {negated : Bool} {left lower upper : Expr} {l low high : StandardType}
      (hleft : HasType ctx left l) (hlower : HasType ctx lower low)
      (hupper : HasType ctx upper high) (hlow : Comparable (boundOperators negated).1 l low)
      (hhigh : Comparable (boundOperators negated).2 l high) :
      WellTyped ctx (.between negated left lower upper)
  | isIn {negated : Bool} {left : Expr} {items : List Expr} {l : StandardType}
      (hleft : HasType ctx left l)
      (hitems : HaveTypes ctx (Comparable (itemOperator negated) l) items) :
      WellTyped ctx (.isIn negated left items)
  | compound {negated conjunction : Bool} {members : List Predicate}
      (hmembers : AllWellTyped ctx members) :
      WellTyped ctx (.compound negated conjunction members)
  | isNull {negated : Bool} {e : Expr} {t : StandardType} (he : HasType ctx e t) :
      WellTyped ctx (.isNull negated e)
  | isEmpty {negated : Bool} {e : Expr} {t : StandardType}
      (he : HasType ctx e (.collection t)) : WellTyped ctx (.isEmpty negated e)
  | holds {negated : Bool} {e : Expr} (he : HasType ctx e .boolean) :
      WellTyped ctx (.holds negated e)

inductive AllWellTyped (ctx : Context) : List Predicate → Prop
  | nil : AllWellTyped ctx []
  | cons {p : Predicate} {rest : List Predicate} (hp : WellTyped ctx p)
      (hrest : AllWellTyped ctx rest) : AllWellTyped ctx (p :: rest)

end

theorem Accepts.resultType_eq {f : FunctionDecl} {argument t : StandardType}
    (h : Accepts f argument t) : f.resultType = t.decl := by
  cases h <;> rfl

/-- A well-typed expression is declared with its type. -/
theorem HasType.type_eq {ctx : Context} :
    ∀ {e : Expr} {t : StandardType}, HasType ctx e t → e.type = t.decl
  | _, _, .scalar _ => rfl
  | _, _, .root _ _ => rfl
  | _, _, .collection _ => rfl
  | _, _, .sign he => he.type_eq
  | _, _, .inversion he _ => he.type_eq
  | _, _, .arithmetic _ _ _ => rfl
  | _, _, .call _ hf => hf.resultType_eq
  | _, _, .predicate _ => rfl

/-! ## Values of a type -/

namespace Value.Conforms

variable {v : Value} {t : StandardType}

theorem isNumeric (h : v.Conforms t) (ht : t.isNumeric) (hv : v.isNull = false) :
    v.isNumeric = true := by
  cases h with
  | null => cases hv
  | integer | decimal => rfl
  | _ => cases ht

theorem boolean_inv (h : v.Conforms .boolean) (hv : v.isNull = false) : ∃ b, v = .boolean b := by
  cases h with
  | null => cases hv
  | boolean => exact ⟨_, rfl⟩
  | integer ht | decimal ht => cases ht

theorem string_inv (h : v.Conforms .string) (hv : v.isNull = false) : ∃ s, v = .string s := by
  cases h with
  | null => cases hv
  | string => exact ⟨_, rfl⟩
  | integer ht | decimal ht => cases ht

theorem interval_inv (h : v.Conforms .interval) (hv : v.isNull = false) :
    ∃ i, v = .interval i := by
  cases h with
  | null => cases hv
  | interval => exact ⟨_, rfl⟩
  | integer ht | decimal ht => cases ht

theorem point_inv (h : v.Conforms t) (ht : t.isPoint) (hv : v.isNull = false) :
    (∃ d, v = .date d ∧ t = .date) ∨ ∃ i, v = .instant i ∧ t = .timestamp := by
  cases h with
  | null => cases hv
  | date => exact .inl ⟨_, rfl, rfl⟩
  | instant => exact .inr ⟨_, rfl, rfl⟩
  | integer ht' | decimal ht' => cases t <;> cases ht <;> cases ht'
  | _ => cases ht

end Value.Conforms

end TypedExpr
