import TypedExpr.Proofs.BuiltIn
import TypedExpr.Proofs.Operands
import TypedExpr.Proofs.Outcome
import TypedExpr.Standard

/-!
# Negation

Flipping the flag of a predicate turns its answer round and leaves unknown and the kind of an error
as they are. A comparison negates the answer of its rule, but BETWEEN and IN ask their rules for the
inverse operators; so the law rests on the rules: each built-in rule answers an operator and its
inverse oppositely, on the same operands, and refuses both alike.
-/

namespace TypedExpr

/-- The opposite answer, unknown for unknown, and for an error one of its kind. -/
def Outcome.Negates : Outcome Truth → Outcome Truth → Prop :=
  Related (fun e f => e.kind = f.kind) fun answer opposite => answer = opposite.map not

namespace Outcome.Negates

@[simp]
theorem ok (answer opposite : Truth) :
    Outcome.Negates (.ok answer) (.ok opposite) ↔ answer = opposite.map not := .rfl

theorem agrees {x y : Outcome Truth} (h : x.Negates y) : x.Agrees ((·.map not) <$> y) := by
  cases x <;> cases y <;> exact h

theorem bind {x y : Outcome Truth} {f g : Truth → Outcome Truth} (hxy : x.Negates y)
    (hfg : ∀ answer, (f (answer.map not)).Negates (g answer)) :
    Outcome.Negates (x >>= f) (y >>= g) :=
  Related.bind hxy fun _ answer h => h ▸ hfg answer

/-- The step that both sides take first. -/
theorem bind_same {α : Type} (x : Outcome α) {f g : α → Outcome Truth}
    (hfg : ∀ a, (f a).Negates (g a)) : Outcome.Negates (x >>= f) (x >>= g) :=
  Related.bind_same (E := fun e f => e.kind = f.kind) (fun _ => rfl) x hfg

/-- The flag of a predicate is applied to its answer, and flipping it applies the other one. -/
theorem flipped (answer : Truth) (negated : Bool) :
    Outcome.Negates (.ok (answer.map (· != !negated))) (.ok (answer.map (· != negated))) := by
  rcases answer with _ | _ | _ <;> cases negated <;> rfl

/-- The opposite of an answer settles a chain of questions exactly if the answer does. -/
theorem unless_settled {x y : Outcome Truth} (h : x.Negates y) (answer : Truth) (going : Bool) :
    Outcome.Negates (if answer.map not = some (!going) then x else .ok (answer.map not))
      (if answer = some going then y else .ok answer) := by
  by_cases hgoing : answer = some going
  · rw [hgoing, if_pos rfl, Option.map_some, if_pos rfl]
    exact h
  · have hopposite : answer.map not ≠ some (!going) := by
      rcases answer with _ | b
      · nofun
      · simpa using hgoing
    rw [if_neg hgoing, if_neg hopposite]
    rfl

end Outcome.Negates

/-! ## Rules -/

namespace ComparisonOperator

theorem converse_inverse (op : ComparisonOperator) : op.inverse.converse = op.converse.inverse := by
  cases op <;> rfl

theorem isEquality_inverse (op : ComparisonOperator) : op.inverse.isEquality = op.isEquality := by
  cases op <;> rfl

/-- An answer from an order of the operands. -/
theorem test_negates (op : ComparisonOperator) (o : Ordering) :
    Outcome.Negates (.ok (some (op.inverse.test o))) (.ok (some (op.test o))) :=
  congrArg some (op.test_inverse o)

end ComparisonOperator

namespace ComparisonRule

variable (l r : Value) (op : ComparisonOperator)

theorem numbers_inverse : (numbers l r op.inverse).Negates (numbers l r op) := by
  unfold numbers
  split
  · cases l.numericOrder? r with
    | none => rfl
    | some o => exact op.test_negates o
  · rfl

theorem strings_inverse : (strings l r op.inverse).Negates (strings l r op) := by
  unfold strings
  split
  · exact op.test_negates _
  · rfl
  · rfl

theorem unordered_inverse : (unordered l r op.inverse).Negates (unordered l r op) := by
  unfold unordered
  rw [op.isEquality_inverse]
  split
  · split
    next h =>
      cases op <;> simp_all [ComparisonOperator.isEquality, ComparisonOperator.inverse]
    next => rfl
  · rfl

theorem dates_inverse (start : Date → Outcome Instant) :
    (dates start l r op.inverse).Negates (dates start l r op) := by
  unfold dates
  split
  · split
    · exact op.test_negates _
    · exact Outcome.Negates.bind_same (start _) fun t => op.test_negates _
    · rfl
  · rfl

theorem instants_inverse : (instants l r op.inverse).Negates (instants l r op) := by
  unfold instants
  split
  · split
    · exact op.test_negates _
    · exact op.test_negates _
    · rfl
  · rfl

theorem intervals_inverse : (intervals l r op.inverse).Negates (intervals l r op) := by
  unfold intervals
  split
  · split
    next a _ b =>
      cases op with
      | equal => simp [ComparisonOperator.inverse, bne]
      | notEqual => simp [ComparisonOperator.inverse, bne]
      | _ => rfl
    next => rfl
  · rfl

/-- On its own operands a built-in rule answers the inverse operator oppositely. -/
theorem compareOwn_inverse (env : Environment) (ctx : Context) {rule : ComparisonRule}
    (hrule : rule.isBuiltIn) (leftType rightType : TypeDecl) :
    (rule.compareOwn env ctx leftType rightType l r op.inverse).Negates
      (rule.compareOwn env ctx leftType rightType l r op) := by
  cases rule with
  | numeric => exact numbers_inverse l r op
  | string => exact strings_inverse l r op
  | equality => exact unordered_inverse l r op
  | date => exact dates_inverse l r op _
  | localDate => exact dates_inverse l r op _
  | timestamp => exact instants_inverse l r op
  | interval => exact intervals_inverse l r op
  | host name => cases hrule

end ComparisonRule

/-- Types with built-in rules answer the inverse operator oppositely. -/
theorem Environment.compare_inverse (env : Environment) (ctx : Context)
    {leftType rightType : TypeDecl} (hleft : leftType.comparesBuiltIn)
    (hright : rightType.comparesBuiltIn) (l r : Value) (op : ComparisonOperator) :
    (env.compare ctx leftType rightType l r op.inverse).Negates
      (env.compare ctx leftType rightType l r op) := by
  unfold Environment.compare
  cases hrule : leftType.comparison with
  | none => rfl
  | some rule =>
    have hrule' := TypeDecl.comparison_isBuiltIn hleft hrule
    simp only [ComparisonRule.compare]
    split
    next other hother =>
      -- the rule on the right answers, and is asked for the converse of the inverse
      rw [op.converse_inverse]
      have hother' := TypeDecl.comparison_isBuiltIn hright hother
      exact ComparisonRule.compareOwn_inverse _ _ _ env ctx hother' rightType leftType
    next => exact ComparisonRule.compareOwn_inverse _ _ op env ctx hrule' leftType rightType

/-! ## Predicates -/

theorem itemOperator_not (negated : Bool) :
    itemOperator (!negated) = (itemOperator negated).inverse := by
  cases negated <;> rfl

theorem boundOperators_not (negated : Bool) :
    boundOperators (!negated) =
      ((boundOperators negated).1.inverse, (boundOperators negated).2.inverse) := by
  cases negated <;> rfl

/-- The types whose rules a predicate asks itself; the predicates in it ask for themselves. -/
def Predicate.comparedTypes : Predicate → List TypeDecl
  | .comparison _ _ left right => [left.type, right.type]
  | .between _ left lower upper => [left.type, lower.type, upper.type]
  | .isIn _ left items => left.type :: items.map Expr.type
  | _ => []

/-- Item by item, NOT IN goes on exactly as long as IN does. -/
theorem evalOneOf_not (env : Environment) (ctx : Context) (negated : Bool) {leftType : TypeDecl}
    (hleft : leftType.comparesBuiltIn) (l : Value) (items : List Expr)
    (hitems : ∀ item ∈ items, item.type.comparesBuiltIn) :
    (evalOneOf env ctx (!negated) leftType l items).Negates
      (evalOneOf env ctx negated leftType l items) := by
  induction items with
  | nil => rfl
  | cons item rest ih =>
    simp only [evalOneOf_cons]
    refine Outcome.Negates.bind_same _ fun r => ?_
    split
    · rfl
    · rw [itemOperator_not]
      have hitem := hitems item List.mem_cons_self
      refine (env.compare_inverse ctx hleft hitem l r _).bind fun answer => ?_
      have hrest := ih fun e he => hitems e (List.mem_cons_of_mem _ he)
      exact hrest.unless_settled answer negated

theorem Predicate.eval_negate_negates (env : Environment) (ctx : Context) (p : Predicate)
    (h : ∀ t ∈ p.comparedTypes, t.comparesBuiltIn) :
    (p.negate.eval env ctx).Negates (p.eval env ctx) := by
  cases p with
  | comparison negated op left right =>
    simp only [negate, eval_comparison]
    refine Outcome.Negates.bind_same _ fun l => ?_
    split
    · rfl
    · refine Outcome.Negates.bind_same _ fun r => ?_
      split
      · rfl
      · exact Outcome.Negates.bind_same _ fun answer => .flipped answer negated
  | between negated left lower upper =>
    simp only [comparedTypes, List.mem_cons, List.not_mem_nil, or_false, forall_eq_or_imp,
      forall_eq] at h
    obtain ⟨hleft, hlower, hupper⟩ := h
    simp only [negate, eval_between, boundOperators_not]
    refine Outcome.Negates.bind_same _ fun l => ?_
    split
    · rfl
    · refine Outcome.Negates.bind_same _ fun low => ?_
      split
      · rfl
      · refine Outcome.Negates.bind_same _ fun high => ?_
        split
        · rfl
        · refine (env.compare_inverse ctx hleft hlower l low _).bind fun answer => ?_
          -- the lower bound answers oppositely, so both sides need the upper one or neither does
          have hsecond := env.compare_inverse ctx hleft hupper l high (boundOperators negated).2
          exact hsecond.unless_settled answer (!negated)
  | isIn negated left items =>
    simp only [comparedTypes, List.mem_cons, List.mem_map] at h
    simp only [negate, eval_isIn]
    refine Outcome.Negates.bind_same _ fun l => ?_
    split
    · rfl
    · exact evalOneOf_not env ctx negated (h _ (.inl rfl)) l items fun item hitem =>
        h _ (.inr ⟨item, hitem, rfl⟩)
  | compound negated conjunction members =>
    simp only [negate, Predicate.eval]
    exact Outcome.Negates.bind_same _ fun answer => .flipped answer negated
  | isNull negated operand =>
    simp only [negate, eval_isNull]
    exact Outcome.Negates.bind_same _ fun v => .flipped (some v.isNull) negated
  | isEmpty negated operand =>
    simp only [negate, eval_isEmpty]
    refine Outcome.Negates.bind_same _ fun v => ?_
    cases v with
    | collection items => exact .flipped (some items.isEmpty) negated
    | _ => rfl
  | holds negated operand =>
    simp only [negate, eval_holds]
    refine Outcome.Negates.bind_same _ fun v => ?_
    cases v with
    | boolean b => exact .flipped (some b) negated
    | _ => rfl

/-- A predicate used as a boolean expression. -/
theorem Predicate.eval_holds_predicate (env : Environment) (ctx : Context) (negated : Bool)
    (type : TypeDecl) (p : Predicate) :
    (Predicate.holds negated (.predicate type p)).eval env ctx =
      (·.map (· != negated)) <$> p.eval env ctx := by
  simp only [Predicate.eval, Expr.eval]
  cases p.eval env ctx with
  | error e => rfl
  | ok answer => cases answer <;> rfl

/-- **Negation.** Over built-in comparison, a predicate with its flag flipped answers the opposite,
and so does the predicate behind a negated boolean test. -/
theorem eval_flipped (env : Environment) (ctx : Context) (p : Predicate)
    (h : ∀ t ∈ p.comparedTypes, t.comparesBuiltIn) (type : TypeDecl) :
    (p.negate.eval env ctx).Negates (p.eval env ctx) ∧
      (p.negate.eval env ctx).Agrees ((Predicate.holds true (.predicate type p)).eval env ctx) := by
  have hnegates := p.eval_negate_negates env ctx h
  refine ⟨hnegates, ?_⟩
  rw [Predicate.eval_holds_predicate, show (fun b => b != true) = not by funext b; cases b <;> rfl]
  exact hnegates.agrees

/-- The first day of 1970. -/
def epochDate : Date := ⟨Instant.epochDay, by decide, by decide⟩

/-- Whether an instant lies between two dates, the first in UTC, the last in the system's zone. -/
def inDays (first last : Date) : Predicate :=
  .between false (.root "t" Standard.timestamp []) (.scalar Standard.date (.date first))
    (.scalar Standard.localDate (.date last))

theorem inDays_flipped :
    (∀ t ∈ (inDays epochDate epochDate).comparedTypes, t.comparesBuiltIn) ∧
      ((inDays epochDate epochDate).negate.eval .utc
          ⟨[("t", .instant (.startOfDay epochDate))]⟩).Negates
        ((inDays epochDate epochDate).eval .utc
          ⟨[("t", .instant (.startOfDay epochDate))]⟩) :=
  ⟨by decide, (eval_flipped .utc _ _ (by decide) Standard.boolean).1⟩

end TypedExpr
