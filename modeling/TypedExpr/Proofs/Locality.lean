import TypedExpr.Proofs.BuiltIn
import TypedExpr.Proofs.Operands
import TypedExpr.Proofs.Outcome
import TypedExpr.Standard

/-!
# Locality

Over built-in rules an expression takes nothing from the context but the roots it names. A context
that repeats their bindings gives every outcome again, whatever else it binds and in whatever order.
A root that evaluation did not reach may be bound in the second context only, and an outcome that
missed a root is the only one that such a binding can change.
-/

namespace TypedExpr

variable {env : Environment} {c c' : Context}

/-! ## Rules -/

section Rules

variable (env) (c c')

theorem ComparisonRule.compareOwn_context {rule : ComparisonRule} (hrule : rule.isBuiltIn)
    (leftType rightType : TypeDecl) (l r : Value) (op : ComparisonOperator) :
    rule.compareOwn env c leftType rightType l r op =
      rule.compareOwn env c' leftType rightType l r op := by
  cases rule with
  | host name => cases hrule
  | _ => rfl

theorem Environment.compare_context {leftType rightType : TypeDecl}
    (hleft : leftType.comparesBuiltIn) (hright : rightType.comparesBuiltIn) (l r : Value)
    (op : ComparisonOperator) :
    env.compare c leftType rightType l r op = env.compare c' leftType rightType l r op := by
  unfold Environment.compare
  cases hrule : leftType.comparison with
  | none => rfl
  | some rule =>
    have hrule' := TypeDecl.comparison_isBuiltIn hleft hrule
    simp only [ComparisonRule.compare]
    split
    next other hother =>
      have hother' := TypeDecl.comparison_isBuiltIn hright hother
      exact ComparisonRule.compareOwn_context env c c' hother' rightType leftType _ _ _
    next => exact ComparisonRule.compareOwn_context env c c' hrule' leftType rightType _ _ _

theorem Environment.calculate_context {target : TypeDecl} (htarget : target.isBuiltIn)
    (leftType rightType : TypeDecl) (l r : Value) (op : ArithmeticOperator) :
    env.calculate c target leftType rightType l r op =
      env.calculate c' target leftType rightType l r op := by
  have harithmetic := (TypeDecl.isBuiltIn_iff.mp htarget).2.1
  unfold Environment.calculate
  cases hrule : target.arithmetic with
  | none => rfl
  | some rule =>
    rw [hrule] at harithmetic
    cases rule with
    | host name => cases harithmetic
    | _ => rfl

theorem Environment.toInternal_context {adapter : Option Adapter}
    (hadapter : adapter.all Adapter.isBuiltIn) (v : Value) (t : TypeDecl) :
    env.toInternal c adapter v t = env.toInternal c' adapter v t := by
  cases adapter with
  | none => rfl
  | some adapter =>
    cases adapter with
    | host name => cases hadapter
    | _ => rfl

theorem Environment.toModel_context {adapter : Option Adapter}
    (hadapter : adapter.all Adapter.isBuiltIn) (v : Value) (t : TypeDecl) :
    env.toModel c adapter v t = env.toModel c' adapter v t := by
  cases adapter with
  | none => rfl
  | some adapter =>
    cases adapter with
    | host name => cases hadapter
    | _ => rfl

theorem Invoker.invoke_context {invoker : Invoker} (hinvoker : invoker.isBuiltIn)
    (f : FunctionDecl) (args : Arguments) :
    invoker.invoke env c f args = invoker.invoke env c' f args := by
  cases invoker with
  | host name => cases hinvoker
  | _ => rfl

theorem Converter.convert_context {converter : Converter} (hconverter : converter.isBuiltIn)
    (v : Value) (t : TypeDecl) : converter.convert env c v t = converter.convert env c' v t := by
  cases converter with
  | host name => cases hconverter
  | _ => rfl

theorem Attribute.readFrom_context {a : Attribute} (ha : a.isBuiltIn) (v : Value) :
    a.readFrom env c v = a.readFrom env c' v := by
  simp only [Attribute.isBuiltIn, Bool.and_eq_true] at ha
  obtain ⟨⟨-, haccessor⟩, hadapter⟩ := ha
  unfold Attribute.readFrom
  simp only [env.toInternal_context c c' hadapter]
  cases h : a.accessor with
  | none => rfl
  | some accessor =>
    rw [h] at haccessor
    cases accessor with
    | host name => cases haccessor
    | entity => rfl

theorem followPath_context {attributes : List Attribute}
    (h : attributes.all Attribute.isBuiltIn) (start : Adapted) :
    followPath env c start attributes = followPath env c' start attributes := by
  induction attributes generalizing start with
  | nil => rfl
  | cons a rest ih =>
    simp only [List.all_cons, Bool.and_eq_true] at h
    simp only [followPath, Attribute.readFrom_context env c c' h.1, ih h.2]

end Rules

/-! ## Adapters left in effect -/

section Adapters

variable (env) (c)

theorem Attribute.readFrom_adapter {a : Attribute} (ha : a.isBuiltIn) (v : Value) :
    (a.readFrom env c v).Yields (·.adapter.all Adapter.isBuiltIn) := by
  simp only [Attribute.isBuiltIn, Bool.and_eq_true] at ha
  unfold Attribute.readFrom
  split
  · trivial
  · exact Outcome.yields_bind _ fun read => Outcome.yields_bind _ fun internal => ha.2

theorem followPath_adapter {start : Adapted} (hstart : start.adapter.all Adapter.isBuiltIn)
    {attributes : List Attribute} (h : attributes.all Attribute.isBuiltIn) :
    (followPath env c start attributes).Yields (·.adapter.all Adapter.isBuiltIn) := by
  induction attributes generalizing start with
  | nil => exact hstart
  | cons a rest ih =>
    simp only [List.all_cons, Bool.and_eq_true] at h
    unfold followPath
    split
    · rfl
    · exact (a.readFrom_adapter env c h.1 start.value).bind fun next hnext => ih hnext h.2

theorem plain_adapter (x : Outcome Value) :
    Outcome.Yields (·.adapter.all Adapter.isBuiltIn) (Adapted.plain <$> x) := by
  cases x with
  | ok v => exact rfl
  | error e => trivial

/-- The adapter that a built-in expression leaves in effect is built in, wherever it comes from. -/
theorem Expr.eval_adapter (e : Expr) (he : e.isBuiltIn) :
    (e.eval env c).Yields (·.adapter.all Adapter.isBuiltIn) := by
  cases e with
  | scalar type v =>
    simp only [Expr.isBuiltIn] at he
    exact (TypeDecl.isBuiltIn_iff.mp he).2.2
  | collection type items =>
    simp only [Expr.isBuiltIn, Bool.and_eq_true] at he
    refine Outcome.yields_bind _ fun values => ?_
    show (if values.isEmpty then none else type.adapter).all Adapter.isBuiltIn = true
    split
    · rfl
    · exact (TypeDecl.isBuiltIn_iff.mp he.1).2.2
  | root name rootType attributes =>
    simp only [Expr.isBuiltIn, Bool.and_eq_true] at he
    simp only [Expr.eval]
    split
    · exact followPath_adapter env c rfl he.2
    · trivial
  | path base attributes =>
    simp only [Expr.isBuiltIn, Bool.and_eq_true] at he
    exact Outcome.yields_bind _ fun start => followPath_adapter env c rfl he.2
  | factor inverted operand =>
    simp only [Expr.eval_factor]
    refine Outcome.yields_bind _ fun v => ?_
    split
    · rfl
    · exact plain_adapter _
  | arithmetic type op left right =>
    simp only [Expr.eval_arithmetic]
    refine Outcome.yields_bind _ fun l => ?_
    split
    · rfl
    · refine Outcome.yields_bind _ fun r => ?_
      split
      · rfl
      · exact plain_adapter _
  | call function bindings =>
    simp only [Expr.isBuiltIn, FunctionDecl.isBuiltIn, Bool.and_eq_true] at he
    obtain ⟨⟨-, hadapter⟩, -⟩ := he
    simp only [Expr.eval]
    split
    · trivial
    · refine Outcome.yields_bind _ fun args => Outcome.yields_bind _ fun result => ?_
      exact Outcome.yields_bind _ fun internal => hadapter
  | predicate type p => exact Outcome.yields_bind _ fun answer => rfl

end Adapters

/-! ## Roots -/

mutual

/-- The names of the roots in an expression. -/
def Expr.roots : Expr → List String
  | .scalar _ _ => []
  | .collection _ items => itemRoots items
  | .root name _ _ => [name]
  | .path base _ => base.roots
  | .factor _ operand => operand.roots
  | .arithmetic _ _ left right => left.roots ++ right.roots
  | .call _ bindings => bindingRoots bindings
  | .predicate _ p => p.roots

def itemRoots : List Expr → List String
  | [] => []
  | e :: rest => e.roots ++ itemRoots rest

def bindingRoots : List (Parameter × Expr) → List String
  | [] => []
  | (_, e) :: rest => e.roots ++ bindingRoots rest

def Predicate.roots : Predicate → List String
  | .comparison _ _ left right => left.roots ++ right.roots
  | .between _ left lower upper => left.roots ++ lower.roots ++ upper.roots
  | .isIn _ left items => left.roots ++ itemRoots items
  | .compound _ _ members => memberRoots members
  | .isNull _ operand => operand.roots
  | .isEmpty _ operand => operand.roots
  | .holds _ operand => operand.roots

def memberRoots : List Predicate → List String
  | [] => []
  | p :: rest => p.roots ++ memberRoots rest

end

/-- The second context binds each of the roots as the first does, if the first does. -/
def Context.Keeps (roots : List String) (c c' : Context) : Prop :=
  ∀ r ∈ roots, ∀ v, c.root? r = some v → c'.root? r = some v

theorem Context.keeps_append {a b : List String} :
    Context.Keeps (a ++ b) c c' ↔ Context.Keeps a c c' ∧ Context.Keeps b c c' := by
  simp only [Context.Keeps, List.mem_append, or_imp, forall_and]

/-! ## Evaluation -/

mutual

/-- By induction on the expression, along the steps of its evaluation: both contexts reach the same
operands with the same values up to the first root that the first context misses. -/
theorem Expr.eval_persists : ∀ e : Expr, e.isBuiltIn → Context.Keeps e.roots c c' →
    (e.eval env c).Persists (e.eval env c')
  | .scalar type v, _, _ => by
    simp only [Expr.eval]
    exact .refl _
  | .collection type items, he, hroots => by
    simp only [Expr.isBuiltIn, Bool.and_eq_true] at he
    simp only [Expr.roots] at hroots
    simp only [Expr.eval]
    exact (evalItems_persists items he.2 hroots).bind fun values => .refl _
  | .root name rootType attributes, he, hroots => by
    simp only [Expr.isBuiltIn, Bool.and_eq_true] at he
    simp only [Expr.eval]
    -- the only place where the context is read, and where an outcome can miss a root
    cases hname : c.root? name with
    | none => exact .inl ⟨name, rfl⟩
    | some v =>
      have hname' : c'.root? name = some v := hroots name (by simp [Expr.roots]) v hname
      simp only [hname', followPath_context env c c' he.2]
      exact .refl _
  | .path base attributes, he, hroots => by
    simp only [Expr.isBuiltIn, Bool.and_eq_true] at he
    simp only [Expr.roots] at hroots
    simp only [Expr.eval, followPath_context env c c' he.2]
    exact (base.eval_persists he.1 hroots).bind fun start => .refl _
  | .factor inverted operand, he, hroots => by
    simp only [Expr.isBuiltIn] at he
    simp only [Expr.roots] at hroots
    simp only [Expr.eval, env.calculate_context c c' (operand.type_isBuiltIn he)]
    exact (operand.eval_persists he hroots).bind fun r => .refl _
  | .arithmetic type op left right, he, hroots => by
    simp only [Expr.isBuiltIn, Bool.and_eq_true] at he
    obtain ⟨⟨htype, hleft⟩, hright⟩ := he
    simp only [Expr.roots, Context.keeps_append] at hroots
    simp only [Expr.eval, env.calculate_context c c' htype]
    refine (left.eval_persists hleft hroots.1).bind fun l => ?_
    split
    · exact .refl _
    · exact (right.eval_persists hright hroots.2).bind fun r => .refl _
  | .call function bindings, he, hroots => by
    simp only [Expr.isBuiltIn, FunctionDecl.isBuiltIn, Bool.and_eq_true] at he
    obtain ⟨⟨⟨-, hinvoker⟩, hadapter⟩, hbindings⟩ := he
    simp only [Expr.roots] at hroots
    simp only [Expr.eval]
    cases h : function.invoker with
    | none => exact .refl _
    | some invoker =>
      rw [h] at hinvoker
      simp only [Invoker.invoke_context env c c' hinvoker, env.toInternal_context c c' hadapter]
      exact (evalBindings_persists bindings hbindings hroots _).bind fun args => .refl _
  | .predicate type p, he, hroots => by
    simp only [Expr.isBuiltIn, Bool.and_eq_true] at he
    simp only [Expr.roots] at hroots
    simp only [Expr.eval]
    exact (p.eval_persists he.2 hroots).bind fun answer => .refl _

theorem evalItems_persists : ∀ items : List Expr, allBuiltIn items →
    Context.Keeps (itemRoots items) c c' → (evalItems env c items).Persists (evalItems env c' items)
  | [], _, _ => by
    simp only [evalItems]
    exact .refl _
  | e :: rest, he, hroots => by
    simp only [allBuiltIn, Bool.and_eq_true] at he
    simp only [itemRoots, Context.keeps_append] at hroots
    simp only [evalItems]
    refine (e.eval_persists he.1 hroots.1).bind fun v => ?_
    exact (evalItems_persists rest he.2 hroots.2).bind fun vs => .refl _

theorem evalBindings_persists : ∀ bindings : List (Parameter × Expr), bindingsBuiltIn bindings →
    Context.Keeps (bindingRoots bindings) c c' → ∀ args : Arguments,
      (evalBindings env c bindings args).Persists (evalBindings env c' bindings args)
  | [], _, _, args => by
    simp only [evalBindings]
    exact .refl _
  | (p, e) :: rest, he, hroots, args => by
    simp only [bindingsBuiltIn, Parameter.isBuiltIn, Bool.and_eq_true] at he
    obtain ⟨⟨hadapter, he⟩, hrest⟩ := he
    simp only [bindingRoots, Context.keeps_append] at hroots
    simp only [evalBindings, env.toModel_context c c' hadapter]
    refine (e.eval_persists he hroots.1).bind fun v => ?_
    -- neither the adapter nor the assignment looks at the context
    refine (Outcome.Persists.refl _).bind fun argument => ?_
    refine (Outcome.Persists.refl _).bind fun args => ?_
    exact evalBindings_persists rest hrest hroots.2 args

theorem Predicate.eval_persists : ∀ p : Predicate, p.isBuiltIn → Context.Keeps p.roots c c' →
    (p.eval env c).Persists (p.eval env c')
  | .comparison negated op left right, hp, hroots => by
    simp only [Predicate.isBuiltIn, Bool.and_eq_true] at hp
    simp only [Predicate.roots, Context.keeps_append] at hroots
    obtain ⟨hleft, hright⟩ := hp
    have hcompare :=
      env.compare_context c c' (left.comparesBuiltIn hleft) (right.comparesBuiltIn hright)
    simp only [Predicate.eval, hcompare]
    refine (left.eval_persists hleft hroots.1).bind fun l => ?_
    split
    · exact .refl _
    · exact (right.eval_persists hright hroots.2).bind fun r => .refl _
  | .between negated left lower upper, hp, hroots => by
    simp only [Predicate.isBuiltIn, Bool.and_eq_true] at hp
    simp only [Predicate.roots, Context.keeps_append] at hroots
    obtain ⟨⟨hleft, hlower⟩, hupper⟩ := hp
    have hleft' := left.comparesBuiltIn hleft
    have hlow := env.compare_context c c' hleft' (lower.comparesBuiltIn hlower)
    have hhigh := env.compare_context c c' hleft' (upper.comparesBuiltIn hupper)
    simp only [Predicate.eval, hlow, hhigh]
    refine (left.eval_persists hleft hroots.1.1).bind fun l => ?_
    split
    · exact .refl _
    · refine (lower.eval_persists hlower hroots.1.2).bind fun low => ?_
      split
      · exact .refl _
      · exact (upper.eval_persists hupper hroots.2).bind fun high => .refl _
  | .isIn negated left items, hp, hroots => by
    simp only [Predicate.isBuiltIn, Bool.and_eq_true] at hp
    simp only [Predicate.roots, Context.keeps_append] at hroots
    simp only [Predicate.eval]
    refine (left.eval_persists hp.1 hroots.1).bind fun l => ?_
    split
    · exact .refl _
    · exact evalOneOf_persists negated (left.comparesBuiltIn hp.1) _ items hp.2 hroots.2
  | .compound negated conjunction members, hp, hroots => by
    simp only [Predicate.isBuiltIn] at hp
    simp only [Predicate.roots] at hroots
    simp only [Predicate.eval]
    exact (evalMembers_persists conjunction members hp hroots).bind fun answer => .refl _
  | .isNull negated operand, hp, hroots => by
    simp only [Predicate.isBuiltIn] at hp
    simp only [Predicate.roots] at hroots
    simp only [Predicate.eval]
    exact (operand.eval_persists hp hroots).bind fun v => .refl _
  | .isEmpty negated operand, hp, hroots => by
    simp only [Predicate.isBuiltIn] at hp
    simp only [Predicate.roots] at hroots
    simp only [Predicate.eval]
    exact (operand.eval_persists hp hroots).bind fun v => .refl _
  | .holds negated operand, hp, hroots => by
    simp only [Predicate.isBuiltIn] at hp
    simp only [Predicate.roots] at hroots
    simp only [Predicate.eval]
    exact (operand.eval_persists hp hroots).bind fun v => .refl _

theorem evalOneOf_persists (negated : Bool) {leftType : TypeDecl}
    (hleft : leftType.comparesBuiltIn) (l : Value) : ∀ items : List Expr, allBuiltIn items →
      Context.Keeps (itemRoots items) c c' →
      (evalOneOf env c negated leftType l items).Persists
        (evalOneOf env c' negated leftType l items)
  | [], _, _ => by
    simp only [evalOneOf]
    exact .refl _
  | item :: rest, hitems, hroots => by
    simp only [allBuiltIn, Bool.and_eq_true] at hitems
    simp only [itemRoots, Context.keeps_append] at hroots
    simp only [evalOneOf, env.compare_context c c' hleft (item.comparesBuiltIn hitems.1)]
    refine (item.eval_persists hitems.1 hroots.1).bind fun r => ?_
    split
    · exact .refl _
    · refine (Outcome.Persists.refl _).bind fun answer => ?_
      split
      · exact evalOneOf_persists negated hleft l rest hitems.2 hroots.2
      · exact .refl _

theorem evalMembers_persists (conjunction : Bool) : ∀ members : List Predicate,
    membersBuiltIn members → Context.Keeps (memberRoots members) c c' →
      (evalMembers env c conjunction members).Persists (evalMembers env c' conjunction members)
  | [], _, _ => by
    simp only [evalMembers]
    exact .refl _
  | p :: rest, hmembers, hroots => by
    simp only [membersBuiltIn, Bool.and_eq_true] at hmembers
    simp only [memberRoots, Context.keeps_append] at hroots
    simp only [evalMembers]
    refine (p.eval_persists hmembers.1 hroots.1).bind fun answer => ?_
    split
    · exact evalMembers_persists conjunction rest hmembers.2 hroots.2
    · exact .refl _

end

/-! ## Entry points -/

theorem Model.converter?_isBuiltIn {model : Model} (h : model.convertsBuiltIn)
    {source target : ValueKind} {converter : Converter}
    (hget : model.converter? source target = some converter) : converter.isBuiltIn := by
  have hmem := Dictionary.mem_of_get? hget
  exact List.all_eq_true.mp h _ hmem

namespace Expr

theorem evaluateInModelForm_context {e : Expr} (he : e.isBuiltIn)
    (heval : e.eval env c' = e.eval env c) :
    e.evaluateInModelForm env c' = e.evaluateInModelForm env c := by
  have hadapter := e.eval_adapter env c he
  unfold evaluateInModelForm
  rw [heval]
  cases hr : e.eval env c with
  | error error => rfl
  | ok r =>
    rw [hr] at hadapter
    exact env.toModel_context c' c hadapter r.value e.type

theorem evaluateToKind_context {model : Model} (hmodel : model.convertsBuiltIn) {e : Expr}
    (hvalue : e.evaluate env c' = e.evaluate env c) (wanted : ValueKind) :
    e.evaluateToKind env model c' wanted = e.evaluateToKind env model c wanted := by
  unfold evaluateToKind
  rw [hvalue]
  refine bind_congr fun v => ?_
  cases v.kind with
  | none => rfl
  | some found =>
    dsimp only
    split
    · rfl
    · cases hconverter : model.converter? found wanted with
      | none => rfl
      | some converter =>
        exact converter.convert_context env c' c (model.converter?_isBuiltIn hmodel hconverter) v _

end Expr

/-- **Locality.** Over built-in rules, an outcome that missed no root comes again in every context
that keeps the bindings of the roots in the expression. -/
theorem outcomes_kept (env : Environment) (model : Model) (c c' : Context) (e : Expr)
    (he : e.isBuiltIn) (hmodel : model.convertsBuiltIn) (hroots : Context.Keeps e.roots c c')
    (hbound : ∀ root, e.evaluate env c ≠ .error (.unboundRoot root)) :
    e.outcomes env model c' = e.outcomes env model c := by
  have heval : e.eval env c' = e.eval env c := by
    refine (e.eval_persists he hroots).eq fun root hroot => hbound root ?_
    rw [Expr.evaluate, hroot]
    rfl
  have hvalue : e.evaluate env c' = e.evaluate env c := by rw [Expr.evaluate, heval, Expr.evaluate]
  unfold Expr.outcomes
  rw [hvalue, Expr.evaluateInModelForm_context he heval]
  simp only [Expr.evaluateToKind_context hmodel hvalue]

/-- A root that counts only where another is absent. -/
def flagIfAbsent : Expr :=
  .predicate Standard.boolean
    (.compound false true [.isNull false (.root "n" Standard.integer []),
      .holds false (.root "flag" Standard.boolean [])])

/-- The second context binds a root that the first does without. -/
theorem flagIfAbsent_kept :
    flagIfAbsent.isBuiltIn ∧ Standard.model.convertsBuiltIn ∧
      Context.Keeps flagIfAbsent.roots ⟨[("n", .integer 1)]⟩
        ⟨[("flag", .boolean true), ("n", .integer 1)]⟩ ∧
      flagIfAbsent.evaluate .utc ⟨[("n", .integer 1)]⟩ = .ok (.boolean false) ∧
      flagIfAbsent.outcomes .utc Standard.model ⟨[("flag", .boolean true), ("n", .integer 1)]⟩ =
        flagIfAbsent.outcomes .utc Standard.model ⟨[("n", .integer 1)]⟩ := by
  have hroots : Context.Keeps flagIfAbsent.roots ⟨[("n", .integer 1)]⟩
      ⟨[("flag", .boolean true), ("n", .integer 1)]⟩ := by
    intro r hr v hv
    simp only [flagIfAbsent, Expr.roots, Predicate.roots, memberRoots, List.cons_append,
      List.nil_append, List.mem_cons, List.not_mem_nil, or_false] at hr
    rcases hr with rfl | rfl
    · exact hv
    · cases hv
  have hvalue : flagIfAbsent.evaluate .utc ⟨[("n", .integer 1)]⟩ = .ok (.boolean false) := rfl
  refine ⟨by decide, by decide, hroots, hvalue, ?_⟩
  exact outcomes_kept .utc Standard.model _ _ flagIfAbsent (by decide) (by decide) hroots
    fun root h => by rw [hvalue] at h; cases h

end TypedExpr
