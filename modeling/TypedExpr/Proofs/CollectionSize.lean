import Mathlib.Data.List.Forall2
import TypedExpr.Proofs.Operands
import TypedExpr.Proofs.Outcome
import TypedExpr.Standard

/-!
# The size of a collection

SIZE counts the items of a collection, so a collection is empty if its size is zero. The predicate
of emptiness answers by itself and the comparison of the size with zero through a call, its view and
the numeric rule; still they have one outcome for whatever yields a collection, nothing or an error.
-/

namespace TypedExpr

/-! ## The number of items -/

/-- The number of items, or the greatest integer if there are more. -/
def itemCount (items : List Value) : Int64 := (int64? items.length).getD Int64.maxValue

theorem toInt_itemCount (items : List Value) :
    (itemCount items).toInt = min (items.length : Int) (2 ^ 63 - 1) := by
  unfold itemCount
  cases h : int64? items.length with
  | some w =>
    have hw := int64?_eq_some_iff.mp h
    have hlt := w.toInt_lt
    rw [Option.getD_some]
    omega
  | none =>
    have hmax : Int64.maxValue.toInt = 2 ^ 63 - 1 := by decide
    have hlength := int64?_eq_none_iff.mp h
    rw [Option.getD_none, hmax]
    omega

theorem toInt_itemCount_eq_zero_iff {items : List Value} :
    (itemCount items).toInt = 0 ↔ items = [] := by
  rw [toInt_itemCount, ← List.length_eq_zero_iff]
  omega

theorem compare_itemCount_beq_eq (items : List Value) :
    (Ord.compare (itemCount items).toInt 0 == .eq) = items.isEmpty := by
  rw [Bool.eq_iff_iff, beq_iff_eq, List.isEmpty_iff, ← toInt_itemCount_eq_zero_iff]
  exact Int.compare_eq_eq

/-! ## Collections -/

variable {env : Environment} {ctx : Context}

/-- By induction on the items: what a list yields are the values of its items in their order. -/
theorem exists_evalItems {items : List Expr} (h : ∀ e ∈ items, ∃ v, e.evaluate env ctx = .ok v) :
    ∃ vs, evalItems env ctx items = .ok vs ∧
      List.Forall₂ (fun e v => e.evaluate env ctx = .ok v) items vs := by
  induction items with
  | nil => exact ⟨[], rfl, .nil⟩
  | cons e rest ih =>
    rw [List.forall_mem_cons] at h
    obtain ⟨v, hv⟩ := h.1
    obtain ⟨vs, hvs, hforall⟩ := ih h.2
    refine ⟨v :: vs, ?_, .cons hv hforall⟩
    rw [evalItems_cons, hv, hvs]
    rfl

/-! ## Calls of SIZE -/

/-- The call of a function on one argument. -/
def FunctionDecl.callOn (f : FunctionDecl) (e : Expr) : Expr :=
  .call f (Bindings.bindPosition f [] 0 e)

variable (env ctx)

namespace Standard

theorem function?_size : model.function? "SIZE" = some size := by
  -- SIZE is registered last, and what comes behind it are converters
  show Dictionary.get? (Dictionary.insert _ (Model.functionKey size.name) size)
    (Model.functionKey size.name) = some size
  rw [Dictionary.get?_insert, if_pos rfl]

theorem type?_integer : model.type? "Integer" = some integer := rfl

/-- The view of the call shows what the argument yields, as it is. -/
theorem evalBindings_size (e : Expr) :
    evalBindings env ctx (Bindings.bindPosition size [] 0 e) (.ofArity size.arity) = (do
      let v ← e.evaluate env ctx
      .ok ⟨[⟨v, some e.type⟩], 1⟩) := by
  show evalBindings env ctx [(⟨"collection", 0, collectionOf integer, none⟩, e)] (.ofArity 1) = _
  rw [evalBindings_cons]
  rfl

/-- How SIZE refuses an argument. -/
def notACollection (v : Value) : EvalError :=
  .illegalArgument (.argument size.name ValueKind.collection.name v.kindName)

theorem evaluate_size (e : Expr) :
    (size.callOn e).evaluate env ctx = (do
      match ← e.evaluate env ctx with
      | .null => .ok .null
      | .collection items => .ok (.integer (itemCount items))
      | v => .error (notACollection v)) := by
  rw [FunctionDecl.callOn, Expr.evaluate_call rfl, evalBindings_size]
  cases e.evaluate env ctx with
  | error error => rfl
  | ok v => cases v <;> rfl

theorem eval_size_compare_zero (op : ComparisonOperator) (e : Expr) :
    (Predicate.comparison false op (size.callOn e)
        (.scalar integer (.integer 0))).eval env ctx = (do
      match ← e.evaluate env ctx with
      | .null => .ok none
      | .collection items => .ok (some (op.test (Ord.compare (itemCount items).toInt 0)))
      | v => .error (notACollection v)) := by
  rw [Predicate.eval_comparison, evaluate_size, Expr.evaluate_scalar]
  cases e.evaluate env ctx with
  | error error => rfl
  | ok v =>
    cases v with
    | collection items =>
      -- two integers meet in the numeric rule, and nothing negates its answer
      show Except.ok (some (op.test (Ord.compare (itemCount items).toInt 0) != false)) = _
      rw [Bool.bne_false]
      rfl
    | _ => rfl

end Standard

/-! ## Emptiness -/

/-- An expression that yields a collection or nothing, if it yields something. -/
def Expr.YieldsCollection (e : Expr) : Prop :=
  (e.evaluate env ctx).Yields fun v => v = .null ∨ v.kind = some .collection

/-- Emptiness is a comparison of the size with zero by an operator that asks for equality, or for
the opposite if the predicate is negated. -/
theorem Predicate.eval_isEmpty_eq_compare {negated : Bool} {op : ComparisonOperator}
    (hop : ∀ o, op.test o = ((o == .eq) != negated)) {e : Expr} (he : e.YieldsCollection env ctx) :
    (Predicate.isEmpty negated e).eval env ctx =
      (Predicate.comparison false op (Standard.size.callOn e)
        (.scalar Standard.integer (.integer 0))).eval env ctx := by
  rw [eval_isEmpty, Standard.eval_size_compare_zero]
  unfold Expr.YieldsCollection at he
  cases hv : e.evaluate env ctx with
  | error error => rfl
  | ok v =>
    rw [hv] at he
    rcases he with rfl | hkind
    · rfl
    · cases v with
      | collection items =>
        show Except.ok (some (items.isEmpty != negated)) = Except.ok (some (op.test _))
        rw [hop, compare_itemCount_beq_eq]
      | _ => cases hkind

/-- **Size and emptiness.** Where an expression yields a collection, nothing or an error, IS EMPTY
has the outcome of SIZE EQUAL 0 and IS NOT EMPTY that of SIZE NOT_EQUAL 0. A list of expressions
that all yield values is the collection of these in order, and its size is the length of the list,
which an integer has room for in every list that fits into memory. -/
theorem isEmpty_agrees_with_size {f : FunctionDecl} {integer : TypeDecl}
    (hf : Standard.model.function? "SIZE" = some f)
    (hinteger : Standard.model.type? "Integer" = some integer) :
    (∀ e : Expr, e.YieldsCollection env ctx →
      (Predicate.isEmpty false e).eval env ctx =
        (Predicate.comparison false .equal (f.callOn e)
          (.scalar integer (.integer 0))).eval env ctx ∧
      (Predicate.isEmpty true e).eval env ctx =
        (Predicate.comparison false .notEqual (f.callOn e)
          (.scalar integer (.integer 0))).eval env ctx) ∧
    (∀ (type : TypeDecl) (items : List Expr),
      (∀ e ∈ items, ∃ v, e.evaluate env ctx = .ok v) →
      ∃ (vs : List Value) (n : Int64),
        List.Forall₂ (fun e v => e.evaluate env ctx = .ok v) items vs ∧
        (Expr.collection type items).evaluate env ctx = .ok (.collection vs) ∧
        (f.callOn (.collection type items)).evaluate env ctx = .ok (.integer n) ∧
        n.toInt = min (items.length : Int) (2 ^ 63 - 1)) := by
  obtain rfl := Option.some.inj (Standard.function?_size.symm.trans hf)
  obtain rfl := Option.some.inj (Standard.type?_integer.symm.trans hinteger)
  constructor
  · intro e he
    constructor
    · exact Predicate.eval_isEmpty_eq_compare env ctx (by decide) he
    · exact Predicate.eval_isEmpty_eq_compare env ctx (by decide) he
  · intro type items hitems
    obtain ⟨vs, hvs, hforall⟩ := exists_evalItems hitems
    have hcollection : (Expr.collection type items).evaluate env ctx = .ok (.collection vs) :=
      Expr.evaluate_collection hvs
    refine ⟨vs, itemCount vs, hforall, hcollection, ?_, ?_⟩
    · rw [Standard.evaluate_size, hcollection]
      rfl
    · rw [toInt_itemCount, hforall.length_eq]

/-- Nothing in the basket, and no list of coupons. -/
def basket : Context := ⟨[("basket", .collection []), ("coupons", .null)]⟩

/-- A collection from the context. -/
def held (name : String) : Expr := .root name (Standard.collectionOf Standard.string) []

/-- An empty collection, an absent one, a root that is not bound, and two items of which one is
absent. -/
theorem basket_empty :
    (Predicate.comparison false .equal (Standard.size.callOn (held "basket"))
        (.scalar Standard.integer (.integer 0))).eval .utc basket = .ok (some true) ∧
      (Predicate.comparison false .notEqual (Standard.size.callOn (held "coupons"))
        (.scalar Standard.integer (.integer 0))).eval .utc basket = .ok none ∧
      (Predicate.comparison false .equal (Standard.size.callOn (held "till"))
        (.scalar Standard.integer (.integer 0))).eval .utc basket = .error (.unboundRoot "till") ∧
      ∃ n : Int64,
        (Standard.size.callOn (.collection (Standard.collectionOf Standard.string)
          [.scalar Standard.string (.string "a"), held "coupons"])).evaluate .utc basket =
            .ok (.integer n) ∧ n.toInt = 2 := by
  have hbasket : (held "basket").YieldsCollection .utc basket := Or.inr rfl
  have hcoupons : (held "coupons").YieldsCollection .utc basket := Or.inl rfl
  have htill : (held "till").YieldsCollection .utc basket := True.intro
  have hitems : ∀ e ∈ [.scalar Standard.string (.string "a"), held "coupons"],
      ∃ v, e.evaluate .utc basket = .ok v :=
    List.forall_mem_cons.mpr ⟨⟨_, rfl⟩, List.forall_mem_singleton.mpr ⟨_, rfl⟩⟩
  obtain ⟨hempty, hsize⟩ :=
    isEmpty_agrees_with_size .utc basket Standard.function?_size Standard.type?_integer
  obtain ⟨-, n, -, -, hn⟩ := hsize (Standard.collectionOf Standard.string) _ hitems
  exact ⟨(hempty _ hbasket).1.symm, (hempty _ hcoupons).2.symm, (hempty _ htill).1.symm, n, hn⟩

end TypedExpr
