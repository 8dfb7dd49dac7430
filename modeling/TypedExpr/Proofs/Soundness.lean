import TypedExpr.Proofs.Outcome
import TypedExpr.Proofs.Typing

/-!
# Type soundness

A well-typed expression evaluates to a value that conforms to its type, in the internal form as in
the model's, or fails with a division by zero or an overflow; nothing else can go wrong. Well-typed
predicates answer or fail in the same way. Comparison itself never fails on conforming operands, so
every failure of a predicate comes from the arithmetic below it.
-/

namespace TypedExpr

theorem Value.isNumeric_iff {v : Value} :
    v.isNumeric = true ↔ (∃ i, v = .integer i) ∨ ∃ d, v = .decimal d := by
  cases v <;> simp [isNumeric, asDecimal?]

/-! ## Comparison -/

namespace ComparisonRule

theorem numbers_eq_ok {l r : Value} (op : ComparisonOperator) (hl : l.isNumeric)
    (hr : r.isNumeric) : ∃ b, numbers l r op = .ok (some b) := by
  rcases Value.isNumeric_iff.mp hl with ⟨i, rfl⟩ | ⟨d, rfl⟩ <;>
    rcases Value.isNumeric_iff.mp hr with ⟨j, rfl⟩ | ⟨e, rfl⟩ <;>
    exact ⟨_, rfl⟩

end ComparisonRule

namespace StandardType

variable {t : StandardType}

theorem comparison_of_isNumeric (ht : t.isNumeric) : t.decl.comparison = some .numeric := by
  cases t with
  | integer | decimal => rfl
  | _ => cases ht

theorem arithmetic_of_isNumeric (ht : t.isNumeric) : t.decl.arithmetic = some .numeric := by
  cases t with
  | integer | decimal => rfl
  | _ => cases ht

theorem isInvertible_iff : t.isInvertible ↔ t.isNumeric ∨ t = .interval := by
  cases t <;> simp [isInvertible, isNumeric]

theorem adapter_eq (t : StandardType) : t.decl.adapter = none ∨ t.decl.adapter = some .identity := by
  cases t with
  | boolean => exact .inr rfl
  | _ => exact .inl rfl

end StandardType

/-- Conforming operands that can be compared have a definite answer. -/
theorem Comparable.compare_eq_ok {op : ComparisonOperator} {l r : StandardType}
    (h : Comparable op l r) (env : Environment) (ctx : Context) {v w : Value}
    (hv : v.Conforms l) (hw : w.Conforms r) (hvn : v.isNull = false) (hwn : w.isNull = false) :
    ∃ b, env.compare ctx l.decl r.decl v w op = .ok (some b) := by
  cases h with
  | numbers hl hr =>
    simp only [Environment.compare, StandardType.comparison_of_isNumeric hl]
    exact ComparisonRule.numbers_eq_ok op (hv.isNumeric hl hvn) (hw.isNumeric hr hwn)
  | strings =>
    obtain ⟨s, rfl⟩ := hv.string_inv hvn
    obtain ⟨s', rfl⟩ := hw.string_inv hwn
    exact ⟨_, rfl⟩
  | points hl hr =>
    -- an instant before a date asks the date's rule, so the four pairs differ
    rcases hv.point_inv hl hvn with ⟨d, rfl, rfl⟩ | ⟨i, rfl, rfl⟩ <;>
      rcases hw.point_inv hr hwn with ⟨e, rfl, rfl⟩ | ⟨j, rfl, rfl⟩ <;>
      exact ⟨_, rfl⟩
  | booleans hop =>
    obtain ⟨b, rfl⟩ := hv.boolean_inv hvn
    obtain ⟨c, rfl⟩ := hw.boolean_inv hwn
    cases op with
    | equal | notEqual => exact ⟨_, rfl⟩
    | _ => cases hop
  | intervals hop =>
    obtain ⟨a, rfl⟩ := hv.interval_inv hvn
    obtain ⟨b, rfl⟩ := hw.interval_inv hwn
    cases op with
    | equal | notEqual => exact ⟨_, rfl⟩
    | _ => cases hop

/-! ## Arithmetic -/

namespace ArithmeticRule

variable {α : Type} {P : Value → Prop} {f : α → Value}

theorem orOverflow_safe (hf : ∀ a, P (f a)) (op : ArithmeticOperator) (l r : Value)
    (result : Option α) : (orOverflow op l r (result.map f)).Safe P := by
  cases result with
  | none => exact .inr rfl
  | some a => exact hf a

theorem plusOrMinus_safe (hf : ∀ a, P (f a)) {op : ArithmeticOperator} (hop : op.IsShift)
    (l r left right : Value) (plus minus : Option α) :
    (plusOrMinus l r op left right (plus.map f) (minus.map f)).Safe P := by
  rcases hop with rfl | rfl
  · exact orOverflow_safe hf _ _ _ _
  · exact orOverflow_safe hf _ _ _ _

theorem decimals_safe {t : StandardType} (ht : t.isNumeric) (a b : Decimal)
    {op : ArithmeticOperator} (hop : op.isUnary = false) :
    (decimals a b op).Safe (·.Conforms t) := by
  have hf (d : Decimal) : (Value.decimal d).Conforms t := .decimal ht
  cases op with
  | plus | minus | multiply => exact orOverflow_safe hf _ _ _ _
  | divide | modulo =>
    simp only [decimals]
    split
    · exact .inl rfl
    · exact orOverflow_safe hf _ _ _ _
  | unaryMinus | unaryPlus => cases hop

theorem integers_safe {t : StandardType} (ht : t.isNumeric) (a b : Int64)
    {op : ArithmeticOperator} (hop : op.isUnary = false) :
    (integers a b op).Safe (·.Conforms t) := by
  have hf (i : Int64) : (Value.integer i).Conforms t := .integer ht
  cases op with
  | plus | minus | multiply => exact orOverflow_safe hf _ _ _ _
  | divide => exact decimals_safe ht _ _ hop
  | modulo =>
    simp only [integers]
    split
    · exact .inl rfl
    · exact orOverflow_safe hf _ _ _ _
  | unaryMinus | unaryPlus => cases hop

theorem numbers_safe {t : StandardType} (ht : t.isNumeric) {l r : Value} (hl : l.isNumeric)
    (hr : r.isNumeric) {op : ArithmeticOperator} (hop : op.isUnary = false) :
    (numbers l r op).Safe (·.Conforms t) := by
  rcases Value.isNumeric_iff.mp hl with ⟨i, rfl⟩ | ⟨d, rfl⟩ <;>
    rcases Value.isNumeric_iff.mp hr with ⟨j, rfl⟩ | ⟨e, rfl⟩
  · cases op with
    | unaryMinus | unaryPlus => cases hop
    | _ => exact integers_safe ht i j hop
  -- a decimal on one side makes decimals of both
  all_goals
    cases op with
    | unaryMinus | unaryPlus => cases hop
    | _ => exact decimals_safe ht _ _ hop

theorem negateNumber_safe {t : StandardType} (ht : t.isNumeric) {v : Value}
    (hv : v.isNumeric) : (negateNumber v).Safe (·.Conforms t) := by
  rcases Value.isNumeric_iff.mp hv with ⟨i, rfl⟩ | ⟨d, rfl⟩
  · simp only [negateNumber]
    split
    · exact .integer ht
    · exact .inr rfl
  · exact .decimal ht

theorem combine_safe {op : ArithmeticOperator} (hop : op.IsShift) (a b : Interval) (l r : Value) :
    (combine a b l r op).Safe (·.Conforms .interval) :=
  plusOrMinus_safe (fun _ => .interval) hop _ _ _ _ _ _

theorem moveDate_safe {op : ArithmeticOperator} (hop : op.IsShift) (d : Date) (i : Interval)
    (l r : Value) : (moveDate d i l r op).Safe (·.Conforms .date) :=
  plusOrMinus_safe (fun _ => .date) hop _ _ _ _ _ _

theorem moveInstant_safe {op : ArithmeticOperator} (hop : op.IsShift) (t : Instant) (i : Interval)
    (l r : Value) : (moveInstant t i l r op).Safe (·.Conforms .timestamp) :=
  plusOrMinus_safe (fun _ => .instant) hop _ _ _ _ _ _

theorem negateInterval_safe (a : Interval) : (negateInterval a).Safe (·.Conforms .interval) := by
  simp only [negateInterval]
  split
  · exact .interval
  · exact .inr rfl

end ArithmeticRule

open ArithmeticRule

/-- What an operator combines has a result of the target type, or overflows or divides by zero. -/
theorem Combines.calculate_safe {op : ArithmeticOperator} {l r t : StandardType}
    (h : Combines op l r t) (env : Environment) (ctx : Context) (leftType rightType : TypeDecl)
    {v w : Value} (hv : v.Conforms l) (hw : w.Conforms r) (hvn : v.isNull = false)
    (hwn : w.isNull = false) :
    (env.calculate ctx t.decl leftType rightType v w op).Safe (·.Conforms t) := by
  cases h with
  | numbers hop hl hr ht =>
    simp only [Environment.calculate, StandardType.arithmetic_of_isNumeric ht]
    exact numbers_safe ht (hv.isNumeric hl hvn) (hw.isNumeric hr hwn) hop
  | textLeft =>
    obtain ⟨s, rfl⟩ := hv.string_inv hvn
    exact .string
  | textRight =>
    obtain ⟨s, rfl⟩ := hw.string_inv hwn
    simp only [Environment.calculate, StandardType.decl, Standard.string, calculate, texts,
      Value.asString?, Option.isSome_some, Bool.or_true, if_true]
    exact .string
  | shift hop hpoint =>
    obtain ⟨i, rfl⟩ := hw.interval_inv hwn
    rcases hv.point_inv hpoint hvn with ⟨d, rfl, rfl⟩ | ⟨u, rfl, rfl⟩
    · exact moveDate_safe hop d i _ _
    · exact moveInstant_safe hop u i _ _
  | shiftBy hpoint =>
    obtain ⟨i, rfl⟩ := hv.interval_inv hvn
    rcases hw.point_inv hpoint hwn with ⟨d, rfl, rfl⟩ | ⟨u, rfl, rfl⟩
    · exact moveDate_safe (.inl rfl) d i (.interval i) (.date d)
    · exact moveInstant_safe (.inl rfl) u i (.interval i) (.instant u)
  | intervals hop =>
    obtain ⟨a, rfl⟩ := hv.interval_inv hvn
    obtain ⟨b, rfl⟩ := hw.interval_inv hwn
    -- only the unary operators of intervals are not combinations
    have hcombine := combine_safe hop a b (.interval a) (.interval b)
    rcases hop with rfl | rfl <;> exact hcombine

/-- Inverting a sign stays in the type or overflows. -/
theorem calculate_unaryMinus_safe {t : StandardType} (ht : t.isInvertible) (env : Environment)
    (ctx : Context) (leftType rightType : TypeDecl) {v : Value} (hv : v.Conforms t)
    (hvn : v.isNull = false) :
    (env.calculate ctx t.decl leftType rightType v v .unaryMinus).Safe (·.Conforms t) := by
  rcases StandardType.isInvertible_iff.mp ht with ht | rfl
  · simp only [Environment.calculate, StandardType.arithmetic_of_isNumeric ht]
    exact negateNumber_safe ht (hv.isNumeric ht hvn)
  · obtain ⟨a, rfl⟩ := hv.interval_inv hvn
    exact negateInterval_safe a

/-! ## Calls -/

/-- A value that conforms to a type, without an adapter that changes it. -/
structure Adapted.Fits (r : Adapted) (t : StandardType) : Prop where
  conforms : r.value.Conforms t
  adapter_eq : r.adapter = none ∨ r.adapter = some .identity

theorem Adapted.Fits.plain {v : Value} {t : StandardType} (hv : v.Conforms t) :
    (Adapted.plain v).Fits t := ⟨hv, .inl rfl⟩

namespace Accepts

variable {f : FunctionDecl} {argument t : StandardType}

theorem parameters_eq (h : Accepts f argument t) :
    ∃ p, f.parameters = [p] ∧ p.position = 0 ∧ p.adapter = none ∧ f.resultAdapter = none := by
  cases h <;> exact ⟨_, rfl, rfl, rfl, rfl⟩

/-- The functions take what conforms, the absent value too. -/
theorem invoke_safe (h : Accepts f argument t) (env : Environment) (ctx : Context)
    (type : TypeDecl) {v : Value} (hv : v.Conforms argument) :
    ∃ invoker, f.invoker = some invoker ∧
      (invoker.invoke env ctx f ⟨[⟨v, some type⟩], 1⟩).Safe (·.Conforms t) := by
  cases h with
  | lower =>
    refine ⟨.lower, rfl, ?_⟩
    cases hv with
    | null => exact .null
    | string => exact .string
    | integer ht | decimal ht => cases ht
  | upper =>
    refine ⟨.upper, rfl, ?_⟩
    cases hv with
    | null => exact .null
    | string => exact .string
    | integer ht | decimal ht => cases ht
  | size =>
    refine ⟨.size, rfl, ?_⟩
    cases hv with
    | null => exact .null
    | collection => exact .integer rfl
    | integer ht | decimal ht => cases ht

theorem eval_call_safe (h : Accepts f argument t) {env : Environment} {ctx : Context} {e : Expr}
    (he : (e.eval env ctx).Safe (·.Fits argument)) :
    ((Expr.call f (Bindings.bindPosition f [] 0 e)).eval env ctx).Safe (·.Fits t) := by
  obtain ⟨p, hparameters, hposition, hadapter, hresult⟩ := h.parameters_eq
  have hbindings : Bindings.bindPosition f [] 0 e = [(p, e)] := by
    simp [Bindings.bindPosition, Bindings.bind?, FunctionDecl.parameter?, hparameters]
  have hargs : evalBindings env ctx [(p, e)] (.ofArity f.arity) = (do
      let v ← e.eval env ctx
      .ok ⟨[⟨v.value, some e.type⟩], 1⟩) := by
    simp only [evalBindings, hposition, hadapter, FunctionDecl.arity, hparameters]
    rfl
  rw [hbindings]
  cases hv : e.eval env ctx with
  | error error =>
    obtain ⟨invoker, hinvoker, -⟩ := h.invoke_safe env ctx e.type .null
    rw [hv] at he
    simp only [Expr.eval, hinvoker, hargs, hv]
    exact he
  | ok r =>
    rw [hv] at he
    obtain ⟨invoker, hinvoker, hinvoke⟩ := h.invoke_safe env ctx e.type he.conforms
    simp only [Expr.eval, hinvoker, hargs, hv, hresult]
    exact hinvoke.bind fun v hv => .plain hv

end Accepts

/-! ## Evaluation -/

mutual

theorem HasType.eval_safe {env : Environment} {ctx : Context} :
    ∀ {e : Expr} {t : StandardType}, HasType ctx e t → (e.eval env ctx).Safe (·.Fits t)
  | _, _, .scalar (t := t) hv => by
    simp only [Expr.eval]
    exact ⟨hv, t.adapter_eq⟩
  | _, _, .root hroot hv => by
    simp only [Expr.eval, hroot, followPath]
    exact .plain hv
  | _, _, .collection hitems => by
    simp only [Expr.eval]
    refine hitems.eval_safe.bind fun values _ => ⟨.collection, .inl ?_⟩
    split <;> rfl
  | _, _, .sign he => by
    simp only [Expr.eval]
    refine he.eval_safe.bind fun r hr => ?_
    simp only [Bool.not_false, Bool.or_true, if_true]
    exact .plain hr.conforms
  | _, _, .inversion he ht => by
    simp only [Expr.eval, he.type_eq]
    refine he.eval_safe.bind fun r hr => ?_
    split
    · exact .plain hr.conforms
    next hn =>
      have hr' : r.value.isNull = false := by simpa using hn
      exact (calculate_unaryMinus_safe ht env ctx _ _ hr.conforms hr').map fun v hv => .plain hv
  | _, _, .arithmetic hleft hright h => by
    simp only [Expr.eval]
    refine hleft.eval_safe.bind fun l hl => ?_
    split
    · exact .plain .null
    next hln =>
      refine hright.eval_safe.bind fun r hr => ?_
      split
      · exact .plain .null
      next hrn =>
        exact (h.calculate_safe env ctx _ _ hl.conforms hr.conforms (Bool.eq_false_iff.mpr hln)
          (Bool.eq_false_iff.mpr hrn)).map fun v hv => .plain hv
  | _, _, .call he hf => hf.eval_call_safe he.eval_safe
  | _, _, .predicate hp => by
    simp only [Expr.eval]
    refine hp.eval_safe.bind fun answer _ => .plain ?_
    cases answer with
    | none => exact .null
    | some b => exact .boolean

theorem HaveTypes.eval_safe {env : Environment} {ctx : Context} :
    ∀ {P : StandardType → Prop} {items : List Expr}, HaveTypes ctx P items →
      (evalItems env ctx items).Safe (fun _ => True)
  | _, _, .nil => trivial
  | _, _, .cons he _ hrest => by
    simp only [evalItems]
    exact he.eval_safe.bind fun _ _ => hrest.eval_safe.bind fun _ _ => trivial

theorem WellTyped.eval_safe {env : Environment} {ctx : Context} :
    ∀ {p : Predicate}, WellTyped ctx p → (p.eval env ctx).Safe (fun _ => True)
  | _, .comparison hleft hright h => by
    simp only [Predicate.eval, hleft.type_eq, hright.type_eq]
    refine hleft.eval_safe.bind fun l hl => ?_
    split
    · trivial
    next hln =>
      refine hright.eval_safe.bind fun r hr => ?_
      split
      · trivial
      next hrn =>
        obtain ⟨b, hb⟩ := h.compare_eq_ok env ctx hl.conforms hr.conforms
          (Bool.eq_false_iff.mpr hln) (Bool.eq_false_iff.mpr hrn)
        rw [hb]
        trivial
  | _, .between hleft hlower hupper hlow hhigh => by
    simp only [Predicate.eval, hleft.type_eq, hlower.type_eq, hupper.type_eq]
    refine hleft.eval_safe.bind fun l hl => ?_
    split
    · trivial
    next hln =>
      refine hlower.eval_safe.bind fun low hlow' => ?_
      split
      · trivial
      next hlown =>
        refine hupper.eval_safe.bind fun high hhigh' => ?_
        split
        · trivial
        next hhighn =>
          obtain ⟨b, hb⟩ := hlow.compare_eq_ok env ctx hl.conforms hlow'.conforms
            (Bool.eq_false_iff.mpr hln) (Bool.eq_false_iff.mpr hlown)
          obtain ⟨c, hc⟩ := hhigh.compare_eq_ok env ctx hl.conforms hhigh'.conforms
            (Bool.eq_false_iff.mpr hln) (Bool.eq_false_iff.mpr hhighn)
          rw [hb, hc]
          simp only [bind, Except.bind]
          split <;> trivial
  | _, .isIn hleft hitems => by
    simp only [Predicate.eval, hleft.type_eq]
    refine hleft.eval_safe.bind fun l hl => ?_
    split
    · trivial
    next hln =>
      exact hitems.evalOneOf_safe (fun _ ht => ht) hl.conforms (Bool.eq_false_iff.mpr hln)
  | _, .compound hmembers => by
    simp only [Predicate.eval]
    exact (hmembers.eval_safe _).bind fun _ _ => trivial
  | _, .isNull he => by
    simp only [Predicate.eval]
    exact he.eval_safe.bind fun _ _ => trivial
  | _, .isEmpty he => by
    simp only [Predicate.eval]
    refine he.eval_safe.bind fun r hr => ?_
    obtain ⟨v, adapter⟩ := r
    cases hr.conforms with
    | null | collection => trivial
    | integer ht | decimal ht => cases ht
  | _, .holds he => by
    simp only [Predicate.eval]
    refine he.eval_safe.bind fun r hr => ?_
    obtain ⟨v, adapter⟩ := r
    cases hr.conforms with
    | null | boolean => trivial
    | integer ht | decimal ht => cases ht

theorem HaveTypes.evalOneOf_safe {env : Environment} {ctx : Context} {negated : Bool}
    {l : StandardType} {v : Value} :
    ∀ {P : StandardType → Prop} {items : List Expr}, HaveTypes ctx P items →
      (∀ t, P t → Comparable (itemOperator negated) l t) → v.Conforms l → v.isNull = false →
      (evalOneOf env ctx negated l.decl v items).Safe (fun _ => True)
  | _, _, .nil, _, _, _ => trivial
  | _, _, .cons he ht hrest, hP, hv, hvn => by
    simp only [evalOneOf, he.type_eq]
    refine he.eval_safe.bind fun r hr => ?_
    split
    · trivial
    next hrn =>
      obtain ⟨b, hb⟩ := (hP _ ht).compare_eq_ok env ctx hv hr.conforms hvn
        (Bool.eq_false_iff.mpr hrn)
      rw [hb]
      simp only [bind, Except.bind]
      split
      · exact hrest.evalOneOf_safe hP hv hvn
      · trivial

theorem AllWellTyped.eval_safe {env : Environment} {ctx : Context} :
    ∀ {members : List Predicate}, AllWellTyped ctx members → ∀ conjunction : Bool,
      (evalMembers env ctx conjunction members).Safe (fun _ => True)
  | _, .nil, _ => trivial
  | _, .cons hp hrest, conjunction => by
    simp only [evalMembers]
    refine hp.eval_safe.bind fun answer _ => ?_
    split
    · exact hrest.eval_safe conjunction
    · trivial

end

/-- **Type soundness.** A well-typed expression is declared with its type and yields a value of it,
also in the model's form, where only division by zero and overflow can fail. Well-typed predicates
fail in no other way either. -/
theorem evaluation_sound (env : Environment) (ctx : Context) :
    (∀ e t, HasType ctx e t →
      e.type = t.decl ∧ (e.evaluate env ctx).Safe (·.Conforms t) ∧
        (e.evaluateInModelForm env ctx).Safe (·.Conforms t)) ∧
    ∀ p, WellTyped ctx p →
      (p.eval env ctx).Safe (fun _ => True) ∧ (p.isTrue env ctx).Safe (fun _ => True) := by
  refine ⟨fun e t he => ⟨he.type_eq, ?_, ?_⟩, fun p hp => ⟨hp.eval_safe, ?_⟩⟩
  · exact he.eval_safe.map fun r hr => hr.conforms
  · refine he.eval_safe.bind fun r hr => ?_
    -- neither adapter that can be in effect changes the value
    rcases hr.adapter_eq with hadapter | hadapter <;> rw [hadapter] <;> exact hr.conforms
  · exact hp.eval_safe.bind fun _ _ => trivial

/-- Ten divided by a root. -/
def tenOver (root : String) : Expr :=
  .arithmetic Standard.decimal .divide (.scalar Standard.integer (.integer 10))
    (.root root Standard.integer [])

/-- A root bound to an integer. -/
def divisor (n : Int64) : Context := ⟨[("n", .integer n)]⟩

theorem tenOver_hasType (n : Int64) : HasType (divisor n) (tenOver "n") .decimal :=
  .arithmetic (t := .decimal) (.scalar (t := .integer) (.integer rfl))
    (.root (t := .integer) rfl (.integer rfl)) (.numbers rfl rfl rfl rfl)

theorem tenOver_isIn_wellTyped (n : Int64) :
    WellTyped (divisor n) (.isIn true (tenOver "n") [tenOver "n"]) :=
  .isIn (tenOver_hasType n) (.cons (tenOver_hasType n) (.numbers rfl rfl) .nil)

/-- A quotient of integers is that of the decimals. -/
theorem evaluate_tenOver (n : Int64) :
    (tenOver "n").evaluate .utc (divisor n) =
      ArithmeticRule.decimals (.ofInt64 10) (.ofInt64 n) .divide := by
  have heval : (tenOver "n").eval .utc (divisor n) =
      Adapted.plain <$> ArithmeticRule.decimals (.ofInt64 10) (.ofInt64 n) .divide := rfl
  rw [Expr.evaluate, heval]
  cases ArithmeticRule.decimals (.ofInt64 10) (.ofInt64 n) .divide <;> rfl

/-- Over five there is a value of the type. Over zero there is none, and a predicate passes the error
on. -/
theorem tenOver_sound :
    HasType (divisor 5) (tenOver "n") .decimal ∧
      (tenOver "n").evaluate .utc (divisor 5) = .ok (.decimal (.ofInt64 2)) ∧
      (Value.decimal (.ofInt64 2)).Conforms .decimal ∧
      WellTyped (divisor 0) (.isIn true (tenOver "n") [tenOver "n"]) ∧
      (Predicate.isIn true (tenOver "n") [tenOver "n"]).isTrue .utc (divisor 0) =
        .error .divisionByZero ∧
      EvalError.divisionByZero.IsArithmetic := by
  have hquotient : (Decimal.ofInt64 10).div (.ofInt64 5) = some (.ofInt64 2) := by decide
  have hvalue : (tenOver "n").evaluate .utc (divisor 5) = .ok (.decimal (.ofInt64 2)) := by
    rw [evaluate_tenOver, ArithmeticRule.decimals, hquotient]
    rfl
  have herror : (Predicate.isIn true (tenOver "n") [tenOver "n"]).isTrue .utc (divisor 0) =
      .error .divisionByZero := rfl
  have hconforms := ((evaluation_sound .utc (divisor 5)).1 _ _ (tenOver_hasType 5)).2.1
  have harithmetic := ((evaluation_sound .utc (divisor 0)).2 _ (tenOver_isIn_wellTyped 0)).2
  rw [hvalue] at hconforms
  rw [herror] at harithmetic
  exact ⟨tenOver_hasType 5, hvalue, hconforms, tenOver_isIn_wellTyped 0, herror, harithmetic⟩

end TypedExpr
