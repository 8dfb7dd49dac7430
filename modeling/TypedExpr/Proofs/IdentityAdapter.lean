import TypedExpr.Proofs.BuiltIn
import TypedExpr.Proofs.Interchange
import TypedExpr.Proofs.Locality
import TypedExpr.Proofs.Operands
import TypedExpr.Standard

/-!
# The identity adapter

The identity adapter can be left out of every declaration. Where it stands in a slot, it is
consulted and changes nothing; where it is left in effect by a leaf, the model's form is the internal
one, as it is without an adapter. The types that rules are told differ by the adapter alone, and no
built-in rule looks at that.
-/

namespace TypedExpr

/-! ## Declarations without the identity adapter -/

/-- An empty slot in place of the identity adapter. -/
def dropIdentity : Option Adapter → Option Adapter
  | some .identity => none
  | adapter => adapter

mutual

/-- The type, with its element type, without identity adapters. -/
def TypeDecl.withoutIdentity : TypeDecl → TypeDecl
  | ⟨name, shape, comparison, arithmetic, adapter⟩ =>
    ⟨name, shapeWithoutIdentity shape, comparison, arithmetic, dropIdentity adapter⟩

def shapeWithoutIdentity : Shape TypeDecl → Shape TypeDecl
  | .basic => .basic
  | .entity => .entity
  | .enumeration keys => .enumeration keys
  | .collection element => .collection element.withoutIdentity

end

def Attribute.withoutIdentity (a : Attribute) : Attribute :=
  { a with type := a.type.withoutIdentity, adapter := dropIdentity a.adapter }

def Parameter.withoutIdentity (p : Parameter) : Parameter :=
  { p with type := p.type.withoutIdentity, adapter := dropIdentity p.adapter }

def FunctionDecl.withoutIdentity (f : FunctionDecl) : FunctionDecl :=
  { f with
    parameters := f.parameters.map Parameter.withoutIdentity
    resultType := f.resultType.withoutIdentity
    resultAdapter := dropIdentity f.resultAdapter }

mutual

/-- The expression without identity adapters in its declarations. -/
def Expr.withoutIdentity : Expr → Expr
  | .scalar type v => .scalar type.withoutIdentity v
  | .collection type items => .collection type.withoutIdentity (itemsWithoutIdentity items)
  | .root name rootType attributes =>
    .root name rootType.withoutIdentity (attributes.map Attribute.withoutIdentity)
  | .path base attributes =>
    .path base.withoutIdentity (attributes.map Attribute.withoutIdentity)
  | .factor inverted operand => .factor inverted operand.withoutIdentity
  | .arithmetic type op left right =>
    .arithmetic type.withoutIdentity op left.withoutIdentity right.withoutIdentity
  | .call function bindings =>
    .call function.withoutIdentity (bindingsWithoutIdentity bindings)
  | .predicate type p => .predicate type.withoutIdentity p.withoutIdentity

def itemsWithoutIdentity : List Expr → List Expr
  | [] => []
  | e :: rest => e.withoutIdentity :: itemsWithoutIdentity rest

def bindingsWithoutIdentity : List (Parameter × Expr) → List (Parameter × Expr)
  | [] => []
  | (p, e) :: rest => (p.withoutIdentity, e.withoutIdentity) :: bindingsWithoutIdentity rest

def Predicate.withoutIdentity : Predicate → Predicate
  | .comparison negated op left right =>
    .comparison negated op left.withoutIdentity right.withoutIdentity
  | .between negated left lower upper =>
    .between negated left.withoutIdentity lower.withoutIdentity upper.withoutIdentity
  | .isIn negated left items => .isIn negated left.withoutIdentity (itemsWithoutIdentity items)
  | .compound negated conjunction members =>
    .compound negated conjunction (membersWithoutIdentity members)
  | .isNull negated operand => .isNull negated operand.withoutIdentity
  | .isEmpty negated operand => .isEmpty negated operand.withoutIdentity
  | .holds negated operand => .holds negated operand.withoutIdentity

def membersWithoutIdentity : List Predicate → List Predicate
  | [] => []
  | p :: rest => p.withoutIdentity :: membersWithoutIdentity rest

end

/-- The value with the adapter that leads back, unless that is the identity. -/
def Adapted.withoutIdentity (r : Adapted) : Adapted := ⟨r.value, dropIdentity r.adapter⟩

/-! ## What rules are told -/

section Types

variable (t : TypeDecl)

@[simp]
theorem TypeDecl.withoutIdentity_name : t.withoutIdentity.name = t.name := by
  cases t
  rfl

@[simp]
theorem TypeDecl.withoutIdentity_comparison : t.withoutIdentity.comparison = t.comparison := by
  cases t
  rfl

@[simp]
theorem TypeDecl.withoutIdentity_arithmetic : t.withoutIdentity.arithmetic = t.arithmetic := by
  cases t
  rfl

@[simp]
theorem TypeDecl.withoutIdentity_adapter :
    t.withoutIdentity.adapter = dropIdentity t.adapter := by
  cases t
  rfl

end Types

theorem pathType_withoutIdentity (start : TypeDecl) (attributes : List Attribute) :
    pathType start.withoutIdentity (attributes.map Attribute.withoutIdentity) =
      (pathType start attributes).withoutIdentity := by
  unfold pathType
  rw [List.getLast?_map]
  cases attributes.getLast? <;> rfl

theorem Expr.type_withoutIdentity : ∀ e : Expr, e.withoutIdentity.type = e.type.withoutIdentity
  | .scalar _ _ | .collection _ _ | .arithmetic _ _ _ _ | .call _ _ | .predicate _ _ => by
    simp only [withoutIdentity, type, FunctionDecl.withoutIdentity]
  | .root _ rootType attributes => by
    simp only [withoutIdentity, type, pathType_withoutIdentity]
  | .path base attributes => by
    simp only [withoutIdentity, type, base.type_withoutIdentity, pathType_withoutIdentity]
  | .factor _ operand => by
    simp only [withoutIdentity, type, operand.type_withoutIdentity]

section Rules

variable (env : Environment) (ctx : Context)

theorem ComparisonRule.compareOwn_withoutIdentity {rule : ComparisonRule} (hrule : rule.isBuiltIn)
    (leftType rightType : TypeDecl) (l r : Value) (op : ComparisonOperator) :
    rule.compareOwn env ctx leftType.withoutIdentity rightType.withoutIdentity l r op =
      rule.compareOwn env ctx leftType rightType l r op := by
  cases rule with
  | host name => cases hrule
  | _ => rfl

theorem Environment.compare_withoutIdentity {leftType rightType : TypeDecl}
    (hleft : leftType.comparesBuiltIn) (hright : rightType.comparesBuiltIn) (l r : Value)
    (op : ComparisonOperator) :
    env.compare ctx leftType.withoutIdentity rightType.withoutIdentity l r op =
      env.compare ctx leftType rightType l r op := by
  unfold Environment.compare
  rw [leftType.withoutIdentity_comparison, leftType.withoutIdentity_name]
  cases hrule : leftType.comparison with
  | none => rfl
  | some rule =>
    have hrule' := TypeDecl.comparison_isBuiltIn hleft hrule
    simp only [ComparisonRule.compare, rightType.withoutIdentity_comparison]
    split
    next other hother =>
      have hother' := TypeDecl.comparison_isBuiltIn hright hother
      exact ComparisonRule.compareOwn_withoutIdentity env ctx hother' rightType leftType _ _ _
    next =>
      exact ComparisonRule.compareOwn_withoutIdentity env ctx hrule' leftType rightType _ _ _

theorem Environment.calculate_withoutIdentity {target : TypeDecl} (htarget : target.isBuiltIn)
    (leftType rightType : TypeDecl) (l r : Value) (op : ArithmeticOperator) :
    env.calculate ctx target.withoutIdentity leftType.withoutIdentity rightType.withoutIdentity
        l r op =
      env.calculate ctx target leftType rightType l r op := by
  have harithmetic := (TypeDecl.isBuiltIn_iff.mp htarget).2.1
  unfold Environment.calculate
  rw [target.withoutIdentity_arithmetic, target.withoutIdentity_name]
  cases hrule : target.arithmetic with
  | none => rfl
  | some rule =>
    rw [hrule] at harithmetic
    cases rule with
    | host name => cases harithmetic
    | _ => rfl

/-- An adapter is told the type for its name only. -/
theorem Environment.toInternal_withoutIdentity {adapter : Option Adapter}
    (hadapter : adapter.all Adapter.isBuiltIn) (v : Value) (t : TypeDecl) :
    env.toInternal ctx (dropIdentity adapter) v t.withoutIdentity =
      env.toInternal ctx adapter v t := by
  cases adapter with
  | none => rfl
  | some adapter =>
    cases adapter with
    | identity => rfl
    | epochMillis =>
      show Adapter.ofMillis v t.withoutIdentity = Adapter.ofMillis v t
      unfold Adapter.ofMillis
      rw [t.withoutIdentity_name]
    | host name => cases hadapter

theorem Environment.toModel_withoutIdentity {adapter : Option Adapter}
    (hadapter : adapter.all Adapter.isBuiltIn) (v : Value) (t : TypeDecl) :
    env.toModel ctx (dropIdentity adapter) v t.withoutIdentity = env.toModel ctx adapter v t := by
  cases adapter with
  | none => rfl
  | some adapter =>
    cases adapter with
    | host name => cases hadapter
    | _ => rfl

theorem Invoker.invoke_withoutIdentity {invoker : Invoker} (hinvoker : invoker.isBuiltIn)
    (f : FunctionDecl) {R : TypeDecl → TypeDecl → Prop} {args' args : Arguments}
    (hargs : args'.Related R args) :
    invoker.invoke env ctx f.withoutIdentity args' = invoker.invoke env ctx f args := by
  cases invoker with
  | host name => cases hinvoker
  | lower | upper =>
    simp only [Invoker.invoke, Invoker.mapString, Invoker.stringAt, hargs.value,
      FunctionDecl.withoutIdentity]
  | power =>
    simp only [Invoker.invoke, Invoker.callPower, Invoker.floatAt, hargs.value,
      FunctionDecl.withoutIdentity]
  | size => simp only [Invoker.invoke, Invoker.callSize, hargs.value, FunctionDecl.withoutIdentity]

theorem Converter.convert_withoutIdentity {converter : Converter} (hconverter : converter.isBuiltIn)
    (v : Value) (t : TypeDecl) :
    converter.convert env ctx v t.withoutIdentity = converter.convert env ctx v t := by
  cases converter with
  | host name => cases hconverter
  | _ => rfl

theorem Attribute.readFrom_withoutIdentity {a : Attribute} (ha : a.isBuiltIn) (v : Value) :
    a.withoutIdentity.readFrom env ctx v =
      Adapted.withoutIdentity <$> a.readFrom env ctx v := by
  simp only [Attribute.isBuiltIn, Bool.and_eq_true] at ha
  obtain ⟨⟨-, haccessor⟩, hadapter⟩ := ha
  have hinternal := env.toInternal_withoutIdentity ctx hadapter
  unfold Attribute.readFrom
  simp only [Attribute.withoutIdentity, hinternal]
  cases h : a.accessor with
  | none => rfl
  | some accessor =>
    rw [h] at haccessor
    cases accessor with
    | host name => cases haccessor
    | entity =>
      simp only [map_bind]
      rfl

/-- Every step reads a value; the adapter behind it counts at the end only. -/
theorem followPath_withoutIdentity {attributes : List Attribute}
    (h : attributes.all Attribute.isBuiltIn) (start : Adapted) :
    followPath env ctx start.withoutIdentity (attributes.map Attribute.withoutIdentity) =
      Adapted.withoutIdentity <$> followPath env ctx start attributes := by
  induction attributes generalizing start with
  | nil => rfl
  | cons a rest ih =>
    simp only [List.all_cons, Bool.and_eq_true] at h
    have hnull : start.withoutIdentity.isNull = start.isNull := rfl
    simp only [List.map_cons, followPath, hnull]
    split
    · rfl
    · have hread := a.readFrom_withoutIdentity env ctx h.1 start.value
      rw [map_bind, show start.withoutIdentity.value = start.value from rfl, hread, bind_map_left]
      exact bind_congr fun next => ih h.2 next

end Rules

/-! ## Evaluation -/

section Evaluation

variable {env : Environment} {ctx : Context}

theorem Expr.evaluate_withoutIdentity {e : Expr}
    (h : e.withoutIdentity.eval env ctx = Adapted.withoutIdentity <$> e.eval env ctx) :
    e.withoutIdentity.evaluate env ctx = e.evaluate env ctx := by
  unfold Expr.evaluate
  rw [h, Functor.map_map]
  rfl

theorem plain_withoutIdentity (x : Outcome Value) :
    Adapted.withoutIdentity <$> (Adapted.plain <$> x) = Adapted.plain <$> x := by
  rw [Functor.map_map]
  rfl

mutual

/-- By induction on the expression: the operands of a node have the same values, and the node leaves
the same adapter in effect unless that is the identity. -/
theorem Expr.eval_withoutIdentity : ∀ e : Expr, e.isBuiltIn →
    e.withoutIdentity.eval env ctx = Adapted.withoutIdentity <$> e.eval env ctx
  | .scalar type v, _ => by
    simp only [Expr.withoutIdentity, Expr.eval, type.withoutIdentity_adapter]
    rfl
  | .collection type items, he => by
    simp only [Expr.isBuiltIn, Bool.and_eq_true] at he
    simp only [Expr.withoutIdentity, Expr.eval, evalItems_withoutIdentity items he.2, map_bind,
      type.withoutIdentity_adapter]
    refine bind_congr fun values => ?_
    -- an empty collection drops the adapter on both sides
    split <;> rfl
  | .root name rootType attributes, he => by
    simp only [Expr.isBuiltIn, Bool.and_eq_true] at he
    simp only [Expr.withoutIdentity, Expr.eval]
    split
    next v _ => exact followPath_withoutIdentity env ctx he.2 (.plain v)
    next => rfl
  | .path base attributes, he => by
    simp only [Expr.isBuiltIn, Bool.and_eq_true] at he
    have hbase := base.evaluate_withoutIdentity (base.eval_withoutIdentity he.1)
    rw [Expr.withoutIdentity, Expr.eval_path, Expr.eval_path, hbase, map_bind]
    exact bind_congr fun v => followPath_withoutIdentity env ctx he.2 (.plain v)
  | .factor inverted operand, he => by
    simp only [Expr.isBuiltIn] at he
    have hoperand := operand.evaluate_withoutIdentity (operand.eval_withoutIdentity he)
    have htype := operand.type_isBuiltIn he
    simp only [Expr.withoutIdentity, Expr.eval_factor, hoperand, operand.type_withoutIdentity,
      env.calculate_withoutIdentity ctx htype, map_bind]
    refine bind_congr fun v => ?_
    split
    · rfl
    · exact (plain_withoutIdentity _).symm
  | .arithmetic type op left right, he => by
    simp only [Expr.isBuiltIn, Bool.and_eq_true] at he
    obtain ⟨⟨htype, hleft⟩, hright⟩ := he
    have hl := left.evaluate_withoutIdentity (left.eval_withoutIdentity hleft)
    have hr := right.evaluate_withoutIdentity (right.eval_withoutIdentity hright)
    simp only [Expr.withoutIdentity, Expr.eval_arithmetic, hl, hr, Expr.type_withoutIdentity,
      env.calculate_withoutIdentity ctx htype, map_bind]
    refine bind_congr fun l => ?_
    split
    · rfl
    · rw [map_bind]
      refine bind_congr fun r => ?_
      split
      · rfl
      · exact (plain_withoutIdentity _).symm
  | .call function bindings, he => by
    simp only [Expr.isBuiltIn, FunctionDecl.isBuiltIn, Bool.and_eq_true] at he
    obtain ⟨⟨⟨-, hinvoker⟩, hadapter⟩, hbindings⟩ := he
    have hrule : function.withoutIdentity.invoker = function.invoker := rfl
    have harity : function.withoutIdentity.arity = function.arity := List.length_map _
    simp only [Expr.withoutIdentity, Expr.eval, hrule, harity]
    cases h : function.invoker with
    | none => rfl
    | some invoker =>
      rw [h] at hinvoker
      simp only [map_bind]
      refine (evalBindings_withoutIdentity bindings hbindings (.ofArity _)).bind_eq
        fun args' args hargs => ?_
      rw [Invoker.invoke_withoutIdentity env ctx hinvoker function hargs]
      refine bind_congr fun result => ?_
      have hinternal :=
        env.toInternal_withoutIdentity ctx hadapter result function.resultType
      simp only [FunctionDecl.withoutIdentity, hinternal]
      rfl
  | .predicate type p, he => by
    simp only [Expr.isBuiltIn, Bool.and_eq_true] at he
    simp only [Expr.withoutIdentity, Expr.eval, p.eval_withoutIdentity he.2, map_bind]
    rfl

theorem evalItems_withoutIdentity : ∀ items : List Expr, allBuiltIn items →
    evalItems env ctx (itemsWithoutIdentity items) = evalItems env ctx items
  | [], _ => rfl
  | e :: rest, he => by
    simp only [allBuiltIn, Bool.and_eq_true] at he
    have hvalue := e.evaluate_withoutIdentity (e.eval_withoutIdentity he.1)
    rw [itemsWithoutIdentity, evalItems_cons, evalItems_cons, hvalue,
      evalItems_withoutIdentity rest he.2]

theorem evalBindings_withoutIdentity : ∀ bindings : List (Parameter × Expr),
    bindingsBuiltIn bindings → ∀ {args' args : Arguments},
      args'.Related (fun t' t => t' = t.withoutIdentity) args →
      (evalBindings env ctx (bindingsWithoutIdentity bindings) args').Related Eq
        (Arguments.Related fun t' t => t' = t.withoutIdentity) (evalBindings env ctx bindings args)
  | [], _, args', args, hargs => hargs
  | (p, e) :: rest, he, args', args, hargs => by
    simp only [bindingsBuiltIn, Parameter.isBuiltIn, Bool.and_eq_true] at he
    obtain ⟨⟨hadapter, he⟩, hrest⟩ := he
    have hvalue := e.evaluate_withoutIdentity (e.eval_withoutIdentity he)
    -- values are assigned together with their types, so the views are related and not the same
    have hmodel := fun v => env.toModel_withoutIdentity ctx hadapter v p.type
    simp only [bindingsWithoutIdentity, evalBindings_cons, hvalue, Parameter.withoutIdentity,
      hmodel]
    refine Outcome.Related.bind_same (fun _ => rfl) _ fun v => ?_
    refine Outcome.Related.bind_same (fun _ => rfl) _ fun argument => ?_
    refine (hargs.assign p.position argument e.type_withoutIdentity).bind fun next' next hnext => ?_
    exact evalBindings_withoutIdentity rest hrest hnext

theorem Predicate.eval_withoutIdentity : ∀ p : Predicate, p.isBuiltIn →
    p.withoutIdentity.eval env ctx = p.eval env ctx
  | .comparison negated op left right, hp => by
    simp only [Predicate.isBuiltIn, Bool.and_eq_true] at hp
    obtain ⟨hleft, hright⟩ := hp
    have hl := left.evaluate_withoutIdentity (left.eval_withoutIdentity hleft)
    have hr := right.evaluate_withoutIdentity (right.eval_withoutIdentity hright)
    simp only [Predicate.withoutIdentity, Predicate.eval_comparison, hl, hr,
      Expr.type_withoutIdentity, env.compare_withoutIdentity ctx (left.comparesBuiltIn hleft)
        (right.comparesBuiltIn hright)]
  | .between negated left lower upper, hp => by
    simp only [Predicate.isBuiltIn, Bool.and_eq_true] at hp
    obtain ⟨⟨hleft, hlower⟩, hupper⟩ := hp
    have hl := left.evaluate_withoutIdentity (left.eval_withoutIdentity hleft)
    have hlow := lower.evaluate_withoutIdentity (lower.eval_withoutIdentity hlower)
    have hhigh := upper.evaluate_withoutIdentity (upper.eval_withoutIdentity hupper)
    have hleft' := left.comparesBuiltIn hleft
    simp only [Predicate.withoutIdentity, Predicate.eval_between, hl, hlow, hhigh,
      Expr.type_withoutIdentity, env.compare_withoutIdentity ctx hleft'
        (lower.comparesBuiltIn hlower),
      env.compare_withoutIdentity ctx hleft' (upper.comparesBuiltIn hupper)]
  | .isIn negated left items, hp => by
    simp only [Predicate.isBuiltIn, Bool.and_eq_true] at hp
    have hl := left.evaluate_withoutIdentity (left.eval_withoutIdentity hp.1)
    have hitems := fun l =>
      evalOneOf_withoutIdentity negated (left.comparesBuiltIn hp.1) l items hp.2
    simp only [Predicate.withoutIdentity, Predicate.eval_isIn, hl, Expr.type_withoutIdentity,
      hitems]
  | .compound negated conjunction members, hp => by
    simp only [Predicate.isBuiltIn] at hp
    simp only [Predicate.withoutIdentity, Predicate.eval,
      evalMembers_withoutIdentity conjunction members hp]
  | .isNull negated operand, hp => by
    simp only [Predicate.isBuiltIn] at hp
    have hoperand := operand.evaluate_withoutIdentity (operand.eval_withoutIdentity hp)
    rw [Predicate.withoutIdentity, Predicate.eval_isNull, Predicate.eval_isNull, hoperand]
  | .isEmpty negated operand, hp => by
    simp only [Predicate.isBuiltIn] at hp
    have hoperand := operand.evaluate_withoutIdentity (operand.eval_withoutIdentity hp)
    rw [Predicate.withoutIdentity, Predicate.eval_isEmpty, Predicate.eval_isEmpty, hoperand]
  | .holds negated operand, hp => by
    simp only [Predicate.isBuiltIn] at hp
    have hoperand := operand.evaluate_withoutIdentity (operand.eval_withoutIdentity hp)
    rw [Predicate.withoutIdentity, Predicate.eval_holds, Predicate.eval_holds, hoperand]

theorem evalOneOf_withoutIdentity (negated : Bool) {leftType : TypeDecl}
    (hleft : leftType.comparesBuiltIn) (l : Value) : ∀ items : List Expr, allBuiltIn items →
      evalOneOf env ctx negated leftType.withoutIdentity l (itemsWithoutIdentity items) =
        evalOneOf env ctx negated leftType l items
  | [], _ => rfl
  | item :: rest, hitems => by
    simp only [allBuiltIn, Bool.and_eq_true] at hitems
    have hitem := item.evaluate_withoutIdentity (item.eval_withoutIdentity hitems.1)
    simp only [itemsWithoutIdentity, evalOneOf_cons, hitem, Expr.type_withoutIdentity,
      env.compare_withoutIdentity ctx hleft (item.comparesBuiltIn hitems.1),
      evalOneOf_withoutIdentity negated hleft l rest hitems.2]

theorem evalMembers_withoutIdentity (conjunction : Bool) : ∀ members : List Predicate,
    membersBuiltIn members →
      evalMembers env ctx conjunction (membersWithoutIdentity members) =
        evalMembers env ctx conjunction members
  | [], _ => rfl
  | p :: rest, hmembers => by
    simp only [membersBuiltIn, Bool.and_eq_true] at hmembers
    simp only [membersWithoutIdentity, evalMembers, p.eval_withoutIdentity hmembers.1,
      evalMembers_withoutIdentity conjunction rest hmembers.2]

end

end Evaluation

/-! ## Entry points -/

namespace Expr

variable (env : Environment) (ctx : Context) {e : Expr} (he : e.isBuiltIn)
include he

theorem evaluateInModelForm_withoutIdentity :
    e.withoutIdentity.evaluateInModelForm env ctx = e.evaluateInModelForm env ctx := by
  have hadapter := e.eval_adapter env ctx he
  unfold evaluateInModelForm
  rw [e.eval_withoutIdentity he, e.type_withoutIdentity, bind_map_left]
  cases hr : e.eval env ctx with
  | error error => rfl
  | ok r =>
    rw [hr] at hadapter
    exact env.toModel_withoutIdentity ctx hadapter r.value e.type

theorem evaluateToKind_withoutIdentity {model : Model} (hmodel : model.convertsBuiltIn)
    (wanted : ValueKind) :
    e.withoutIdentity.evaluateToKind env model ctx wanted =
      e.evaluateToKind env model ctx wanted := by
  unfold evaluateToKind
  rw [e.evaluate_withoutIdentity (e.eval_withoutIdentity he), e.type_withoutIdentity]
  refine bind_congr fun v => ?_
  cases v.kind with
  | none => rfl
  | some found =>
    dsimp only
    split
    · rfl
    · cases hconverter : model.converter? found wanted with
      | none => rfl
      | some converter =>
        have hbuiltIn := model.converter?_isBuiltIn hmodel hconverter
        exact converter.convert_withoutIdentity env ctx hbuiltIn v e.type

end Expr

/-- **The identity adapter is a no-op.** Over built-in rules, every entry point makes the same of an
expression without the identity adapters in its declarations, and predicates answer the same. -/
theorem outcomes_withoutIdentity (env : Environment) (model : Model) (ctx : Context)
    (hmodel : model.convertsBuiltIn) :
    (∀ e : Expr, e.isBuiltIn →
      e.withoutIdentity.outcomes env model ctx = e.outcomes env model ctx) ∧
    ∀ p : Predicate, p.isBuiltIn → p.withoutIdentity.eval env ctx = p.eval env ctx := by
  refine ⟨fun e he => ?_, fun p hp => p.eval_withoutIdentity hp⟩
  unfold Expr.outcomes
  rw [e.evaluate_withoutIdentity (e.eval_withoutIdentity he),
    Expr.evaluateInModelForm_withoutIdentity env ctx he]
  simp only [Expr.evaluateToKind_withoutIdentity env ctx he hmodel]

/-- The number of tags of a document. The identity adapter stands on the attribute, on the
parameter and on the result. -/
def tagCount : Expr :=
  .call
    { name := "COUNT"
      parameters := [⟨"tags", 0, Standard.collectionOf Standard.boolean, some .identity⟩]
      resultType := Standard.integer
      invoker := some .size
      resultAdapter := some .identity }
    [(⟨"tags", 0, Standard.collectionOf Standard.boolean, some .identity⟩,
      .root "document" (.bare "Document" .entity)
        [⟨"Document", "tags", Standard.collectionOf Standard.boolean, some .entity,
          some .identity⟩])]

/-- The call has its value with and without the identity, and so does a predicate over it. -/
theorem tagCount_withoutIdentity :
    let document : Value := .entity "Document" [("tags", .collection [.boolean true])]
    let ctx : Context := ⟨[("document", document)]⟩
    let p : Predicate := .comparison false .greater tagCount (.scalar Standard.integer (.integer 0))
    Standard.model.convertsBuiltIn ∧ tagCount.isBuiltIn ∧ p.isBuiltIn ∧
      tagCount.evaluate .utc ctx = .ok (.integer 1) ∧
      tagCount.withoutIdentity.outcomes .utc Standard.model ctx =
        tagCount.outcomes .utc Standard.model ctx ∧
      p.withoutIdentity.eval .utc ctx = p.eval .utc ctx := by
  intro document ctx p
  have hmodel : Standard.model.convertsBuiltIn := by decide
  have hcount : tagCount.isBuiltIn := by decide
  have hp : p.isBuiltIn := by decide
  obtain ⟨hexpr, hpredicate⟩ := outcomes_withoutIdentity .utc Standard.model ctx hmodel
  exact ⟨hmodel, hcount, hp, rfl, hexpr tagCount hcount, hpredicate p hp⟩

end TypedExpr
