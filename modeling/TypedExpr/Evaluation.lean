import TypedExpr.Capability.Arithmetic
import TypedExpr.Capability.Call
import TypedExpr.Capability.Comparison
import TypedExpr.Expression
import TypedExpr.Model
import TypedExpr.Path

/-!
# Evaluation

Expressions are evaluated depth first and from left to right, to a value and the adapter of the
leaf that produced it. Predicates answer true, false or unknown (`none`); an absent operand makes
an answer unknown, and what follows it is not looked at.
-/

namespace TypedExpr

/-- The comparisons with the bounds whose answers settle a BETWEEN. -/
def boundOperators (negated : Bool) : ComparisonOperator × ComparisonOperator :=
  if negated then (.lower, .greater) else (.greaterOrEqual, .lowerOrEqual)

/-- The comparison with the items whose answers settle an IN. -/
def itemOperator (negated : Bool) : ComparisonOperator := if negated then .notEqual else .equal

mutual

def Expr.eval (env : Environment) (ctx : Context) : Expr → Outcome Adapted
  | .scalar type v => .ok ⟨v, type.adapter⟩
  | .collection type items => do
    let values ← evalItems env ctx items
    .ok ⟨.collection values, if values.isEmpty then none else type.adapter⟩
  | .root name _ attributes =>
    match ctx.root? name with
    | some v => followPath env ctx (.plain v) attributes
    | none => .error (.unboundRoot name)
  | .path base attributes => do
    let start ← base.eval env ctx
    -- the adapter of the base is not in effect behind it
    followPath env ctx (.plain start.value) attributes
  | .factor inverted operand => do
    let v := (← operand.eval env ctx).value
    if v.isNull || !inverted then .ok (.plain v)
    else
      let type := operand.type
      .plain <$> env.calculate ctx type type type v v .unaryMinus
  | .arithmetic type op left right => do
    let l := (← left.eval env ctx).value
    if l.isNull then .ok .absent
    else
      let r := (← right.eval env ctx).value
      if r.isNull then .ok .absent
      else .plain <$> env.calculate ctx type left.type right.type l r op
  | .call function bindings =>
    match function.invoker with
    | none => .error (.missingInvoker function.name)
    | some invoker => do
      -- positions without a binding stay absent
      let args ← evalBindings env ctx bindings (.ofArity function.arity)
      let result ← invoker.invoke env ctx function args
      let internal ← env.toInternal ctx function.resultAdapter result function.resultType
      .ok ⟨internal, function.resultAdapter⟩
  | .predicate _ p => do
    let answer ← p.eval env ctx
    .ok (.plain (.ofTruth answer))

/-- The values of expressions, in order. -/
def evalItems (env : Environment) (ctx : Context) : List Expr → Outcome (List Value)
  | [] => .ok []
  | e :: rest => do
    let v ← e.eval env ctx
    let vs ← evalItems env ctx rest
    .ok (v.value :: vs)

/-- Evaluates bindings in order, and assigns each value in the model's form to its position. -/
def evalBindings (env : Environment) (ctx : Context) :
    List (Parameter × Expr) → Arguments → Outcome Arguments
  | [], args => .ok args
  | (p, e) :: rest, args => do
    let v ← e.eval env ctx
    let argument ← env.toModel ctx p.adapter v.value p.type
    let args ← args.assign p.position argument e.type
    evalBindings env ctx rest args

def Predicate.eval (env : Environment) (ctx : Context) : Predicate → Outcome Truth
  | .comparison negated op left right => do
    let l := (← left.eval env ctx).value
    if l.isNull then .ok none
    else
      let r := (← right.eval env ctx).value
      if r.isNull then .ok none
      else
        let answer ← env.compare ctx left.type right.type l r op
        .ok (answer.map (· != negated))
  | .between negated left lower upper => do
    let l := (← left.eval env ctx).value
    if l.isNull then .ok none
    else
      let low := (← lower.eval env ctx).value
      if low.isNull then .ok none
      else
        let high := (← upper.eval env ctx).value
        if high.isNull then .ok none
        else
          let (lowOp, highOp) := boundOperators negated
          let answer ← env.compare ctx left.type lower.type l low lowOp
          -- the upper bound is asked only if the lower one leaves the answer open
          if answer = some (!negated) then env.compare ctx left.type upper.type l high highOp
          else .ok answer
  | .isIn negated left items => do
    let l := (← left.eval env ctx).value
    if l.isNull then .ok none else evalOneOf env ctx negated left.type l items
  | .compound negated conjunction members => do
    let answer ← evalMembers env ctx conjunction members
    .ok (answer.map (· != negated))
  | .isNull negated operand => do
    let v := (← operand.eval env ctx).value
    .ok (some (v.isNull != negated))
  | .isEmpty negated operand => do
    match (← operand.eval env ctx).value with
    | .null => .ok none
    | .collection items => .ok (some (items.isEmpty != negated))
    | v => .error (.typeMismatch ValueKind.collection.name v.kindName)
  | .holds negated operand => do
    match (← operand.eval env ctx).value with
    | .null => .ok none
    | .boolean b => .ok (some (b != negated))
    | v => .error (.typeMismatch ValueKind.boolean.name v.kindName)

/-- Compares a value with items in order until a comparison settles the answer. An absent item
leaves it unknown. -/
def evalOneOf (env : Environment) (ctx : Context) (negated : Bool) (leftType : TypeDecl)
    (l : Value) : List Expr → Outcome Truth
  | [] => .ok (some negated)
  | item :: rest => do
    let r := (← item.eval env ctx).value
    if r.isNull then .ok none
    else
      let answer ← env.compare ctx leftType item.type l r (itemOperator negated)
      if answer = some negated then evalOneOf env ctx negated leftType l rest else .ok answer

/-- Goes through the members in order until one is unknown or settles the answer: false in a
conjunction, true in a disjunction. -/
def evalMembers (env : Environment) (ctx : Context) (conjunction : Bool) :
    List Predicate → Outcome Truth
  | [] => .ok (some conjunction)
  | p :: rest => do
    let answer ← p.eval env ctx
    if answer = some conjunction then evalMembers env ctx conjunction rest else .ok answer

end

namespace Expr

/-- The value in the internal form. -/
def evaluate (env : Environment) (ctx : Context) (e : Expr) : Outcome Value :=
  (·.value) <$> e.eval env ctx

/-- The value in the model's form, by the adapter that the outermost leaf left in effect. -/
def evaluateInModelForm (env : Environment) (ctx : Context) (e : Expr) : Outcome Value := do
  let result ← e.eval env ctx
  env.toModel ctx result.adapter result.value e.type

/-- The value as one of the given kind. What is absent or of that kind stays; anything else needs a
converter of the model. -/
def evaluateToKind (env : Environment) (model : Model) (ctx : Context) (wanted : ValueKind)
    (e : Expr) : Outcome Value := do
  let v ← e.evaluate env ctx
  match v.kind with
  | none => .ok v
  | some found =>
    if found = wanted then .ok v
    else
      match model.converter? found wanted with
      | some converter => converter.convert env ctx v e.type
      | none => .error (.noConverter found wanted)

variable {env : Environment} {ctx : Context}

theorem evaluate_scalar (type : TypeDecl) (v : Value) :
    (Expr.scalar type v).evaluate env ctx = .ok v := by
  rw [evaluate, Expr.eval]
  rfl

theorem evaluate_collection {type : TypeDecl} {items : List Expr} {vs : List Value}
    (h : evalItems env ctx items = .ok vs) :
    (Expr.collection type items).evaluate env ctx = .ok (.collection vs) := by
  rw [evaluate, Expr.eval, h]
  rfl

theorem evaluate_call {f : FunctionDecl} {i : Invoker} (hf : f.invoker = some i)
    (bindings : List (Parameter × Expr)) :
    (Expr.call f bindings).evaluate env ctx = (do
      let args ← evalBindings env ctx bindings (.ofArity f.arity)
      let result ← i.invoke env ctx f args
      env.toInternal ctx f.resultAdapter result f.resultType) := by
  simp only [evaluate, Expr.eval, hf, map_bind]
  refine bind_congr fun args => bind_congr fun result => ?_
  cases env.toInternal ctx f.resultAdapter result f.resultType <;> rfl

end Expr

/-- Whether a predicate is true; unknown counts as false. -/
def Predicate.isTrue (env : Environment) (ctx : Context) (p : Predicate) : Outcome Bool := do
  let answer ← p.eval env ctx
  .ok (answer = some true)

end TypedExpr
