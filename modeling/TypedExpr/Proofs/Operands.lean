import TypedExpr.Evaluation

/-!
# Evaluation from operands

Every node reads its operands through `Expr.evaluate` and `Expr.type` alone: the adapter that an
operand leaves in effect goes no further. There is one equation for each node with operands, and
one for each list of them.
-/

namespace TypedExpr

/-- What the entry points make of an expression: its value, the value in the model's form, and the
value as one of each kind. -/
structure Outcomes where
  internal : Outcome Value
  inModelForm : Outcome Value
  asKind : ValueKind → Outcome Value

def Expr.outcomes (env : Environment) (model : Model) (ctx : Context) (e : Expr) : Outcomes where
  internal := e.evaluate env ctx
  inModelForm := e.evaluateInModelForm env ctx
  asKind wanted := e.evaluateToKind env model ctx wanted

variable (env : Environment) (ctx : Context)

/-! ## Expressions -/

namespace Expr

theorem eval_path (base : Expr) (attributes : List Attribute) :
    (Expr.path base attributes).eval env ctx = (do
      let v ← base.evaluate env ctx
      followPath env ctx (.plain v) attributes) := by
  simp only [Expr.eval, evaluate, bind_map_left]

theorem eval_factor (inverted : Bool) (operand : Expr) :
    (Expr.factor inverted operand).eval env ctx = (do
      let v ← operand.evaluate env ctx
      if v.isNull || !inverted then .ok (.plain v)
      else
        let type := operand.type
        .plain <$> env.calculate ctx type type type v v .unaryMinus) := by
  simp only [Expr.eval, evaluate, bind_map_left]

theorem eval_arithmetic (type : TypeDecl) (op : ArithmeticOperator) (left right : Expr) :
    (Expr.arithmetic type op left right).eval env ctx = (do
      let l ← left.evaluate env ctx
      if l.isNull then .ok .absent
      else
        let r ← right.evaluate env ctx
        if r.isNull then .ok .absent
        else .plain <$> env.calculate ctx type left.type right.type l r op) := by
  simp only [Expr.eval, evaluate, bind_map_left]

/-! A sign and an arithmetic operation hand no adapter on, so their values tell everything. -/

variable {env ctx} in
theorem evaluate_of_eval_plain {e : Expr} {x : Outcome Value}
    (h : e.eval env ctx = .plain <$> x) : e.evaluate env ctx = x := by
  rw [evaluate, h, Functor.map_map]
  exact id_map x

theorem eval_factor_plain (inverted : Bool) (operand : Expr) :
    (Expr.factor inverted operand).eval env ctx = Adapted.plain <$> (do
      let v ← operand.evaluate env ctx
      if v.isNull || !inverted then .ok v
      else
        let type := operand.type
        env.calculate ctx type type type v v .unaryMinus) := by
  rw [eval_factor, map_bind]
  refine bind_congr fun v => ?_
  split <;> rfl

theorem eval_arithmetic_plain (type : TypeDecl) (op : ArithmeticOperator) (left right : Expr) :
    (Expr.arithmetic type op left right).eval env ctx = Adapted.plain <$> (do
      let l ← left.evaluate env ctx
      if l.isNull then .ok .null
      else
        let r ← right.evaluate env ctx
        if r.isNull then .ok .null
        else env.calculate ctx type left.type right.type l r op) := by
  rw [eval_arithmetic, map_bind]
  refine bind_congr fun l => ?_
  split
  · rfl
  · rw [map_bind]
    refine bind_congr fun r => ?_
    split <;> rfl

theorem evaluate_factor (inverted : Bool) (operand : Expr) :
    (Expr.factor inverted operand).evaluate env ctx = (do
      let v ← operand.evaluate env ctx
      if v.isNull || !inverted then .ok v
      else
        let type := operand.type
        env.calculate ctx type type type v v .unaryMinus) :=
  evaluate_of_eval_plain (eval_factor_plain env ctx inverted operand)

theorem evaluate_arithmetic (type : TypeDecl) (op : ArithmeticOperator) (left right : Expr) :
    (Expr.arithmetic type op left right).evaluate env ctx = (do
      let l ← left.evaluate env ctx
      if l.isNull then .ok .null
      else
        let r ← right.evaluate env ctx
        if r.isNull then .ok .null
        else env.calculate ctx type left.type right.type l r op) :=
  evaluate_of_eval_plain (eval_arithmetic_plain env ctx type op left right)

end Expr

theorem evalItems_cons (e : Expr) (rest : List Expr) :
    evalItems env ctx (e :: rest) = (do
      let v ← e.evaluate env ctx
      let vs ← evalItems env ctx rest
      .ok (v :: vs)) := by
  simp only [evalItems, Expr.evaluate, bind_map_left]

theorem evalBindings_cons (p : Parameter) (e : Expr) (rest : Bindings) (args : Arguments) :
    evalBindings env ctx ((p, e) :: rest) args = (do
      let v ← e.evaluate env ctx
      let argument ← env.toModel ctx p.adapter v p.type
      let args ← args.assign p.position argument e.type
      evalBindings env ctx rest args) := by
  simp only [evalBindings, Expr.evaluate, bind_map_left]

/-! ## Predicates -/

namespace Predicate

theorem eval_comparison (negated : Bool) (op : ComparisonOperator) (left right : Expr) :
    (Predicate.comparison negated op left right).eval env ctx = (do
      let l ← left.evaluate env ctx
      if l.isNull then .ok none
      else
        let r ← right.evaluate env ctx
        if r.isNull then .ok none
        else
          let answer ← env.compare ctx left.type right.type l r op
          .ok (answer.map (· != negated))) := by
  simp only [Predicate.eval, Expr.evaluate, bind_map_left]

theorem eval_between (negated : Bool) (left lower upper : Expr) :
    (Predicate.between negated left lower upper).eval env ctx = (do
      let l ← left.evaluate env ctx
      if l.isNull then .ok none
      else
        let low ← lower.evaluate env ctx
        if low.isNull then .ok none
        else
          let high ← upper.evaluate env ctx
          if high.isNull then .ok none
          else
            let answer ← env.compare ctx left.type lower.type l low (boundOperators negated).1
            if answer = some (!negated) then
              env.compare ctx left.type upper.type l high (boundOperators negated).2
            else .ok answer) := by
  simp only [Predicate.eval, Expr.evaluate, bind_map_left]

theorem eval_isIn (negated : Bool) (left : Expr) (items : List Expr) :
    (Predicate.isIn negated left items).eval env ctx = (do
      let l ← left.evaluate env ctx
      if l.isNull then .ok none else evalOneOf env ctx negated left.type l items) := by
  simp only [Predicate.eval, Expr.evaluate, bind_map_left]

theorem eval_isNull (negated : Bool) (operand : Expr) :
    (Predicate.isNull negated operand).eval env ctx = (do
      let v ← operand.evaluate env ctx
      .ok (some (v.isNull != negated))) := by
  simp only [Predicate.eval, Expr.evaluate, bind_map_left]

theorem eval_isEmpty (negated : Bool) (operand : Expr) :
    (Predicate.isEmpty negated operand).eval env ctx = (do
      match ← operand.evaluate env ctx with
      | .null => .ok none
      | .collection items => .ok (some (items.isEmpty != negated))
      | v => .error (.typeMismatch ValueKind.collection.name v.kindName)) := by
  simp only [Predicate.eval, Expr.evaluate]
  cases operand.eval env ctx <;> rfl

theorem eval_holds (negated : Bool) (operand : Expr) :
    (Predicate.holds negated operand).eval env ctx = (do
      match ← operand.evaluate env ctx with
      | .null => .ok none
      | .boolean b => .ok (some (b != negated))
      | v => .error (.typeMismatch ValueKind.boolean.name v.kindName)) := by
  simp only [Predicate.eval, Expr.evaluate]
  cases operand.eval env ctx <;> rfl

end Predicate

theorem evalOneOf_cons (negated : Bool) (leftType : TypeDecl) (l : Value) (item : Expr)
    (rest : List Expr) :
    evalOneOf env ctx negated leftType l (item :: rest) = (do
      let r ← item.evaluate env ctx
      if r.isNull then .ok none
      else
        let answer ← env.compare ctx leftType item.type l r (itemOperator negated)
        if answer = some negated then evalOneOf env ctx negated leftType l rest
        else .ok answer) := by
  simp only [evalOneOf, Expr.evaluate, bind_map_left]

end TypedExpr
