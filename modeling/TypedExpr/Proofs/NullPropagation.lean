import TypedExpr.Proofs.BuiltIn
import TypedExpr.Proofs.Operands
import TypedExpr.Proofs.Outcome
import TypedExpr.Standard

/-!
# Null propagation

Arithmetic is strict in absent values: a calculation that has a result is absent exactly if one of
its leaves is. An absent operand on the left hides the operand on the right, so the leaf may be one
that is never looked at; and no built-in rule makes an absent value out of present ones. A
calculation hands no adapter on.
-/

namespace TypedExpr

/-- A present value, if there is a result. -/
abbrev Outcome.Present : Outcome Value → Prop := Outcome.Yields fun v => v.isNull = false

/-! ## Rules

What a built-in rule yields is present, whatever its operands are. -/

namespace ArithmeticRule

variable {α : Type} {f : α → Value}

theorem orOverflow_present (hf : ∀ a, (f a).isNull = false) (op : ArithmeticOperator)
    (l r : Value) (result : Option α) : (orOverflow op l r (result.map f)).Present := by
  cases result with
  | none => trivial
  | some a => exact hf a

theorem plusOrMinus_present (hf : ∀ a, (f a).isNull = false) (l r : Value)
    (op : ArithmeticOperator) (left right : Value) (plus minus : Option α) :
    (plusOrMinus l r op left right (plus.map f) (minus.map f)).Present := by
  cases op with
  | plus => exact orOverflow_present hf _ _ _ plus
  | minus => exact orOverflow_present hf _ _ _ minus
  | _ => trivial

theorem decimals_present (a b : Decimal) (op : ArithmeticOperator) :
    (decimals a b op).Present := by
  have hresult := orOverflow_present (f := .decimal) (fun _ => rfl) op (.decimal a) (.decimal b)
  cases op with
  | plus | minus | multiply => exact hresult _
  | divide | modulo =>
    simp only [decimals]
    by_cases hb : b.isZero
    · rw [if_pos hb]
      trivial
    · rw [if_neg hb]
      exact hresult _
  | unaryMinus | unaryPlus => trivial

theorem integers_present (a b : Int64) (op : ArithmeticOperator) :
    (integers a b op).Present := by
  have hresult := orOverflow_present (f := .integer) (fun _ => rfl) op (.integer a) (.integer b)
  cases op with
  | plus | minus | multiply => exact hresult _
  | divide => exact decimals_present (.ofInt64 a) (.ofInt64 b) .divide
  | modulo =>
    simp only [integers]
    by_cases hb : b = 0
    · rw [if_pos hb]
      trivial
    · rw [if_neg hb]
      exact hresult _
  | unaryMinus | unaryPlus => trivial

theorem negateNumber_present (v : Value) : (negateNumber v).Present := by
  cases v with
  | integer i =>
    simp only [negateNumber]
    cases int64? (-i.toInt) with
    | none => trivial
    | some j => exact rfl
  | decimal d => exact rfl
  | _ => trivial

theorem numbers_present (l r : Value) (op : ArithmeticOperator) : (numbers l r op).Present := by
  unfold numbers
  split
  · exact negateNumber_present l
  · -- the positive of a number is that number itself
    cases l with
    | integer i => exact rfl
    | decimal d => exact rfl
    | _ => trivial
  · split
    · exact integers_present _ _ op
    · split
      · exact decimals_present _ _ op
      · trivial

theorem texts_present (l r : Value) (op : ArithmeticOperator) : (texts l r op).Present := by
  unfold texts
  split
  · cases op with
    | plus => exact rfl
    | _ => trivial
  · trivial

theorem combine_present (a b : Interval) (l r : Value) (op : ArithmeticOperator) :
    (combine a b l r op).Present :=
  plusOrMinus_present (fun _ => rfl) l r op _ _ _ _

theorem moveDate_present (d : Date) (i : Interval) (l r : Value) (op : ArithmeticOperator) :
    (moveDate d i l r op).Present :=
  plusOrMinus_present (fun _ => rfl) l r op _ _ _ _

theorem moveInstant_present (t : Instant) (i : Interval) (l r : Value)
    (op : ArithmeticOperator) : (moveInstant t i l r op).Present :=
  plusOrMinus_present (fun _ => rfl) l r op _ _ _ _

theorem dates_present (l r : Value) (op : ArithmeticOperator) : (dates l r op).Present := by
  unfold dates
  split
  · exact combine_present _ _ _ _ op
  · exact moveDate_present _ _ _ _ op
  · split
    · exact moveDate_present _ _ _ _ op
    · trivial
  · trivial

theorem localDates_present (start : Date → Outcome Instant) (l r : Value)
    (op : ArithmeticOperator) : (localDates start l r op).Present := by
  unfold localDates
  split
  · exact combine_present _ _ _ _ op
  · exact Outcome.yields_bind _ fun t => moveInstant_present t _ _ _ op
  · split
    · exact Outcome.yields_bind _ fun t => moveInstant_present t _ _ _ op
    · trivial
  · trivial

theorem instants_present (l r : Value) (op : ArithmeticOperator) : (instants l r op).Present := by
  unfold instants
  split
  · exact combine_present _ _ _ _ op
  · exact moveInstant_present _ _ _ _ op
  · split
    · exact moveInstant_present _ _ _ _ op
    · trivial
  · trivial

theorem intervals_present (l r : Value) (op : ArithmeticOperator) :
    (intervals l r op).Present := by
  unfold intervals
  split
  next a =>
    split
    · simp only [negateInterval]
      cases a.neg with
      | none => trivial
      | some b => exact rfl
    · exact rfl
    · split
      · exact combine_present _ _ _ _ op
      · trivial
  next => trivial

theorem calculate_present {rule : ArithmeticRule} (hrule : rule.isBuiltIn) (env : Environment)
    (ctx : Context) (target leftType rightType : TypeDecl) (l r : Value)
    (op : ArithmeticOperator) :
    (rule.calculate env ctx target leftType rightType l r op).Present := by
  cases rule with
  | numeric => exact numbers_present l r op
  | string => exact texts_present l r op
  | date => exact dates_present l r op
  | localDate => exact localDates_present _ l r op
  | timestamp => exact instants_present l r op
  | interval => exact intervals_present l r op
  | host name => cases hrule

end ArithmeticRule

/-- Whether arithmetic with the type as its result is done by a built-in rule, if at all. -/
def TypeDecl.calculatesBuiltIn (t : TypeDecl) : Bool := t.arithmetic.all ArithmeticRule.isBuiltIn

theorem Environment.calculate_present {target : TypeDecl} (h : target.calculatesBuiltIn)
    (env : Environment) (ctx : Context) (leftType rightType : TypeDecl) (l r : Value)
    (op : ArithmeticOperator) :
    (env.calculate ctx target leftType rightType l r op).Present := by
  unfold Environment.calculate
  cases hrule : target.arithmetic with
  | none => trivial
  | some rule =>
    rw [TypeDecl.calculatesBuiltIn, hrule] at h
    exact ArithmeticRule.calculate_present h env ctx target leftType rightType l r op

/-! ## Calculations -/

/-- Signs and arithmetic operations, nested to any depth over leaves of any kind. -/
inductive Calculation where
  | leaf (e : Expr)
  | factor (inverted : Bool) (operand : Calculation)
  | arithmetic (type : TypeDecl) (op : ArithmeticOperator) (left right : Calculation)

namespace Calculation

def expr : Calculation → Expr
  | .leaf e => e
  | .factor inverted operand => .factor inverted operand.expr
  | .arithmetic type op left right => .arithmetic type op left.expr right.expr

def leaves : Calculation → List Expr
  | .leaf e => [e]
  | .factor _ operand => operand.leaves
  | .arithmetic _ _ left right => left.leaves ++ right.leaves

/-- The types whose rules the calculation may ask. -/
def targets : Calculation → List TypeDecl
  | .leaf _ => []
  | .factor _ operand => operand.expr.type :: operand.targets
  | .arithmetic type _ left right => type :: (left.targets ++ right.targets)

/-- Whether anything is calculated at all. -/
def isOperation : Calculation → Bool
  | .leaf _ => false
  | .factor .. | .arithmetic .. => true

variable (env : Environment) (ctx : Context)

/-- Whether some leaf is absent, be it looked at or not. -/
def HasAbsentLeaf (c : Calculation) : Prop := ∃ e ∈ c.leaves, e.evaluate env ctx = .ok .null

theorem hasAbsentLeaf_arithmetic (type : TypeDecl) (op : ArithmeticOperator)
    (left right : Calculation) :
    (Calculation.arithmetic type op left right).HasAbsentLeaf env ctx ↔
      left.HasAbsentLeaf env ctx ∨ right.HasAbsentLeaf env ctx := by
  simp only [HasAbsentLeaf, leaves, List.mem_append, or_and_right, exists_or]

variable {env ctx}

/-- Present values, where no leaf is absent. -/
theorem present_of_not_hasAbsentLeaf {c : Calculation} {x : Outcome Value} (hx : x.Present)
    (hc : ¬c.HasAbsentLeaf env ctx) :
    x.Yields fun v => v.isNull = true ↔ c.HasAbsentLeaf env ctx := by
  refine Outcome.Yields.mono hx fun v hv => ?_
  rw [hv]
  exact ⟨fun h => (Bool.false_ne_true h).elim, fun h => (hc h).elim⟩

/-- By induction on the calculation: an operand that is absent settles the result, and behind
present ones only a rule is left, which yields a present value. -/
theorem evaluate_isNull : ∀ c : Calculation, (∀ t ∈ c.targets, t.calculatesBuiltIn) →
    (∀ e ∈ c.leaves, ∃ v, e.evaluate env ctx = .ok v) →
      (c.expr.evaluate env ctx).Yields fun v => v.isNull = true ↔ c.HasAbsentLeaf env ctx
  | .leaf e, _, hleaves => by
    obtain ⟨v, hv⟩ := hleaves e (List.mem_singleton_self e)
    have habsent : (Calculation.leaf e).HasAbsentLeaf env ctx ↔ v = .null := by
      simp [HasAbsentLeaf, leaves, hv]
    rw [expr, hv]
    show v.isNull = true ↔ _
    rw [habsent]
    cases v <;> simp [Value.isNull]
  | .factor inverted operand, htargets, hleaves => by
    rw [targets, List.forall_mem_cons] at htargets
    obtain ⟨htype, htargetsOperand⟩ := htargets
    have hoperand := operand.evaluate_isNull htargetsOperand hleaves
    rw [expr, Expr.evaluate_factor]
    refine hoperand.bind fun v hv => ?_
    -- the operand stays if it is absent or has no sign to be changed
    by_cases hstays : v.isNull || !inverted
    · rw [if_pos hstays]
      exact hv
    · rw [if_neg hstays]
      have hpresent : ¬operand.HasAbsentLeaf env ctx := by
        intro habsent
        exact hstays (by rw [hv.mpr habsent, Bool.true_or])
      exact present_of_not_hasAbsentLeaf (c := operand)
        (env.calculate_present htype ctx _ _ v v .unaryMinus) hpresent
  | .arithmetic type op left right, htargets, hleaves => by
    rw [targets, List.forall_mem_cons, List.forall_mem_append] at htargets
    rw [leaves, List.forall_mem_append] at hleaves
    obtain ⟨htype, htargetsLeft, htargetsRight⟩ := htargets
    rw [expr, Expr.evaluate_arithmetic]
    simp only [hasAbsentLeaf_arithmetic]
    refine (left.evaluate_isNull htargetsLeft hleaves.1).bind fun l hl => ?_
    by_cases hlnull : l.isNull
    · -- the right operand is not evaluated, and its leaves do not count any more
      rw [if_pos hlnull]
      exact ⟨fun _ => .inl (hl.mp hlnull), fun _ => rfl⟩
    · rw [if_neg hlnull]
      refine (right.evaluate_isNull htargetsRight hleaves.2).bind fun r hr => ?_
      by_cases hrnull : r.isNull
      · rw [if_pos hrnull]
        exact ⟨fun _ => .inr (hr.mp hrnull), fun _ => rfl⟩
      · rw [if_neg hrnull]
        have hpresent :
            ¬(Calculation.arithmetic type op left right).HasAbsentLeaf env ctx := by
          rw [hasAbsentLeaf_arithmetic]
          exact not_or.mpr ⟨fun h => hlnull (hl.mpr h), fun h => hrnull (hr.mpr h)⟩
        rw [← hasAbsentLeaf_arithmetic env ctx type op left right]
        exact present_of_not_hasAbsentLeaf
          (env.calculate_present htype ctx _ _ l r op) hpresent

theorem eval_eq_plain {c : Calculation} (h : c.isOperation) :
    c.expr.eval env ctx = .plain <$> c.expr.evaluate env ctx := by
  cases c with
  | leaf e => cases h
  | factor inverted operand =>
    rw [expr, Expr.evaluate_factor, Expr.eval_factor_plain]
  | arithmetic type op left right =>
    rw [expr, Expr.evaluate_arithmetic, Expr.eval_arithmetic_plain]

end Calculation

/-- **Null propagation.** Over leaves without errors, a calculation with built-in rules that has a
result is absent exactly if a leaf is, looked at or not, and it hands no adapter on. -/
theorem calculation_isNull (env : Environment) (ctx : Context) (c : Calculation)
    (htargets : ∀ t ∈ c.targets, t.calculatesBuiltIn)
    (hleaves : ∀ e ∈ c.leaves, ∃ v, e.evaluate env ctx = .ok v) {result : Adapted}
    (h : c.expr.eval env ctx = .ok result) :
    (result.isNull ↔ ∃ e ∈ c.leaves, e.evaluate env ctx = .ok .null) ∧
      (c.isOperation → result.adapter = none) := by
  constructor
  · have hvalue : c.expr.evaluate env ctx = .ok result.value := by
      rw [Expr.evaluate, h]
      rfl
    have hnull := c.evaluate_isNull htargets hleaves
    rw [hvalue] at hnull
    exact hnull
  · intro hoperation
    rw [Calculation.eval_eq_plain hoperation] at h
    cases hvalue : c.expr.evaluate env ctx with
    | error e =>
      rw [hvalue] at h
      cases h
    | ok v =>
      rw [hvalue] at h
      cases h
      rfl

/-- What is left of an allowance behind the cost of three pieces. The cost is of a type without a
rule for arithmetic, so it can be calculated only as long as there is no price. -/
def leftOver : Calculation :=
  .arithmetic Standard.decimal .minus
    (.factor true (.leaf (.root "allowance" Standard.decimal [])))
    (.arithmetic (.bare "Money" .basic) .multiply (.leaf (.root "price" Standard.decimal []))
      (.leaf (.scalar Standard.integer (.integer 3))))

/-- Without a price nothing is left, although the allowance is known. -/
theorem leftOver_isNull :
    (∀ t ∈ leftOver.targets, t.calculatesBuiltIn) ∧
      (∀ e ∈ leftOver.leaves, ∃ v,
        e.evaluate .utc ⟨[("allowance", .integer 5), ("price", .null)]⟩ = .ok v) ∧
      leftOver.expr.eval .utc ⟨[("allowance", .integer 5), ("price", .null)]⟩ = .ok .absent ∧
      ∃ e ∈ leftOver.leaves,
        e.evaluate .utc ⟨[("allowance", .integer 5), ("price", .null)]⟩ = .ok .null := by
  have htargets : ∀ t ∈ leftOver.targets, t.calculatesBuiltIn := by decide
  have hleaves : ∀ e ∈ leftOver.leaves, ∃ v,
      e.evaluate .utc ⟨[("allowance", .integer 5), ("price", .null)]⟩ = .ok v := by
    intro e he
    simp only [leftOver, Calculation.leaves, List.cons_append, List.nil_append, List.mem_cons,
      List.not_mem_nil, or_false] at he
    rcases he with rfl | rfl | rfl
    · exact ⟨.integer 5, rfl⟩
    · exact ⟨.null, rfl⟩
    · exact ⟨.integer 3, rfl⟩
  have heval : leftOver.expr.eval .utc ⟨[("allowance", .integer 5), ("price", .null)]⟩ =
      .ok .absent := rfl
  exact ⟨htargets, hleaves, heval,
    (calculation_isNull .utc _ leftOver htargets hleaves heval).1.mp rfl⟩

end TypedExpr
