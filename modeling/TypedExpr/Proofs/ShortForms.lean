import TypedExpr.Proofs.Operands
import TypedExpr.Standard

/-!
# IN and BETWEEN as compound predicates

IN is a short form of the disjunction of the equalities with its items, and BETWEEN of the conjunction of
the comparisons with its bounds; their negated forms are short for the dual compounds of inverse
comparisons. So it is for every rule of comparison, whether it answers, is unknown or fails: both
sides put the same questions in the same order, and stop at the same one. The short forms evaluate
the operands that all members share once and beforehand, and are unknown where one of these is absent.
-/

namespace TypedExpr

variable {env : Environment} {ctx : Context}

/-! ## Operands that may be absent -/

/-- Whether an expression has a value, and not the absent one. -/
def Expr.IsPresent (env : Environment) (ctx : Context) (e : Expr) : Prop :=
  ∃ v, e.evaluate env ctx = .ok v ∧ v.isNull = false

/-- What a predicate does with a value, or unknown if that is absent. -/
def Expr.ifPresent (env : Environment) (ctx : Context) (e : Expr) (next : Value → Outcome Truth) :
    Outcome Truth := do
  let v ← e.evaluate env ctx
  if v.isNull then .ok none else next v

namespace Expr

variable {e : Expr} {next : Value → Outcome Truth}

theorem ifPresent_of_present {v : Value} (h : e.evaluate env ctx = .ok v)
    (hv : v.isNull = false) : e.ifPresent env ctx next = next v := by
  rw [ifPresent, h]
  exact if_neg (Bool.eq_false_iff.mp hv)

theorem ifPresent_of_absent (h : e.evaluate env ctx = .ok .null) :
    e.ifPresent env ctx next = .ok none := by
  rw [ifPresent, h]
  rfl

theorem ifPresent_of_error {error : EvalError} (h : e.evaluate env ctx = .error error) :
    e.ifPresent env ctx next = .error error := by
  rw [ifPresent, h]
  rfl

/-- An operand that is absent or fails settles the outcome, whatever would be done with a value. -/
theorem ifPresent_stops (e : Expr) (next : Value → Outcome Truth) :
    (e.evaluate env ctx = .ok .null → e.ifPresent env ctx next = .ok none) ∧
      ∀ error, e.evaluate env ctx = .error error → e.ifPresent env ctx next = .error error :=
  ⟨ifPresent_of_absent, fun _ => ifPresent_of_error⟩

/-- An unknown answer ends a chain of questions, whatever comes next. -/
theorem ifPresent_bind (g : Truth → Outcome Truth) (hg : g none = .ok none) :
    e.ifPresent env ctx next >>= g = e.ifPresent env ctx fun v => next v >>= g := by
  unfold ifPresent
  rw [bind_assoc]
  refine bind_congr fun v => ?_
  split
  · exact hg
  · rfl

end Expr

/-! ## Members -/

/-- A flag that is not set leaves an outcome as it is. -/
theorem bind_map_bne_false (x : Outcome Truth) :
    (do let answer ← x; .ok (answer.map (· != false)) : Outcome Truth) = x := by
  cases x with
  | error e => rfl
  | ok answer => rcases answer with _ | _ | _ <;> rfl

theorem evalMembers_singleton (conjunction : Bool) (p : Predicate) :
    evalMembers env ctx conjunction [p] = p.eval env ctx := by
  rw [evalMembers]
  cases p.eval env ctx with
  | error e => rfl
  | ok answer =>
    -- behind a single member the neutral answer is left, which is its own
    show (if answer = some conjunction then _ else _) = _
    by_cases h : answer = some conjunction
    · rw [if_pos h, h]
      rfl
    · rw [if_neg h]

namespace Predicate

theorem eval_compound_plain (conjunction : Bool) (members : List Predicate) :
    (Predicate.compound false conjunction members).eval env ctx =
      evalMembers env ctx conjunction members := by
  rw [Predicate.eval, bind_map_bne_false]

theorem eval_comparison_ifPresent (op : ComparisonOperator) (left right : Expr) :
    (Predicate.comparison false op left right).eval env ctx =
      left.ifPresent env ctx fun l => right.ifPresent env ctx fun r =>
        env.compare ctx left.type right.type l r op := by
  rw [eval_comparison]
  simp only [bind_map_bne_false]
  rfl

/-- Beside a present operand only the other one is left to look at. -/
theorem eval_comparison_of_present {left : Expr} {l : Value} (h : left.evaluate env ctx = .ok l)
    (hl : l.isNull = false) (op : ComparisonOperator) (right : Expr) :
    (Predicate.comparison false op left right).eval env ctx =
      right.ifPresent env ctx fun r => env.compare ctx left.type right.type l r op := by
  rw [eval_comparison_ifPresent, Expr.ifPresent_of_present h hl]

end Predicate

/-! ## IN -/

theorem evalOneOf_ifPresent (negated : Bool) (leftType : TypeDecl) (l : Value) (item : Expr)
    (rest : List Expr) :
    evalOneOf env ctx negated leftType l (item :: rest) = (item.ifPresent env ctx fun r => do
      let answer ← env.compare ctx leftType item.type l r (itemOperator negated)
      if answer = some negated then evalOneOf env ctx negated leftType l rest else .ok answer) :=
  evalOneOf_cons env ctx negated leftType l item rest

/-- By induction on the items: a comparison with an item is settled, unknown or an error at the same
one where it stands as a member. -/
theorem evalOneOf_eq_evalMembers {left : Expr} {l : Value} (h : left.evaluate env ctx = .ok l)
    (hl : l.isNull = false) (negated : Bool) (items : List Expr) :
    evalOneOf env ctx negated left.type l items =
      evalMembers env ctx negated
        (items.map (Predicate.comparison false (itemOperator negated) left)) := by
  induction items with
  | nil => rfl
  | cons item rest ih =>
    -- the item is looked at inside of the member, and beside it in the short form
    rw [List.map_cons, evalMembers, Predicate.eval_comparison_of_present h hl,
      Expr.ifPresent_bind, evalOneOf_ifPresent, ih]
    rfl

/-- **IN.** With a present left operand IN has the outcome of the disjunction of the equalities with
its items, and NOT IN that of the conjunction of the inequalities. An absent one makes both unknown,
whatever the items are. -/
theorem eval_isIn_compound (env : Environment) (ctx : Context) (left : Expr) (items : List Expr) :
    (left.IsPresent env ctx →
      (Predicate.isIn false left items).eval env ctx =
          (Predicate.compound false false
            (items.map fun item => .comparison false .equal left item)).eval env ctx ∧
        (Predicate.isIn true left items).eval env ctx =
          (Predicate.compound false true
            (items.map fun item => .comparison false .notEqual left item)).eval env ctx) ∧
    (left.evaluate env ctx = .ok .null →
      ∀ negated, (Predicate.isIn negated left items).eval env ctx = .ok none) := by
  have hisIn (negated : Bool) : (Predicate.isIn negated left items).eval env ctx =
      left.ifPresent env ctx fun l => evalOneOf env ctx negated left.type l items :=
    Predicate.eval_isIn env ctx negated left items
  constructor
  · rintro ⟨l, h, hl⟩
    have hmembers (negated : Bool) := evalOneOf_eq_evalMembers h hl negated items
    constructor
    · rw [hisIn, Expr.ifPresent_of_present h hl, hmembers, Predicate.eval_compound_plain]
      rfl
    · rw [hisIn, Expr.ifPresent_of_present h hl, hmembers, Predicate.eval_compound_plain]
      rfl
  · intro h negated
    rw [hisIn, Expr.ifPresent_of_absent h]

/-- A root with a count. -/
def countRoot : Expr := .root "count" Standard.integer []

/-- A root that is not bound. -/
def missingRoot : Expr := .root "missing" Standard.integer []

/-- The absent item settles neither form, and the root behind it is not looked at. -/
theorem countRoot_isIn_compound :
    countRoot.IsPresent .utc ⟨[("count", .integer 2)]⟩ ∧
      (Predicate.isIn true countRoot [.scalar Standard.integer (.integer 1),
          .null Standard.integer, missingRoot]).eval .utc ⟨[("count", .integer 2)]⟩ =
        (Predicate.compound false true [
            .comparison false .notEqual countRoot (.scalar Standard.integer (.integer 1)),
            .comparison false .notEqual countRoot (.null Standard.integer),
            .comparison false .notEqual countRoot missingRoot]).eval .utc
          ⟨[("count", .integer 2)]⟩ ∧
      (Expr.null Standard.integer).evaluate .utc .empty = .ok .null ∧
      (Predicate.isIn true (.null Standard.integer) [missingRoot]).eval .utc .empty = .ok none := by
  have hpresent : countRoot.IsPresent .utc ⟨[("count", .integer 2)]⟩ := ⟨.integer 2, rfl, rfl⟩
  exact ⟨hpresent, ((eval_isIn_compound .utc _ countRoot _).1 hpresent).2, rfl,
    (eval_isIn_compound .utc .empty (.null Standard.integer) [missingRoot]).2 rfl true⟩

/-! ## BETWEEN -/

theorem Predicate.eval_between_ifPresent (negated : Bool) (subject lower upper : Expr) :
    (Predicate.between negated subject lower upper).eval env ctx =
      (subject.ifPresent env ctx fun l => lower.ifPresent env ctx fun low =>
        upper.ifPresent env ctx fun high => do
          let answer ← env.compare ctx subject.type lower.type l low (boundOperators negated).1
          if answer = some (!negated) then
            env.compare ctx subject.type upper.type l high (boundOperators negated).2
          else .ok answer) :=
  Predicate.eval_between env ctx negated subject lower upper

/-- The comparisons with two present bounds as members. -/
theorem evalMembers_bounds {subject lower upper : Expr} {l low high : Value}
    (h : subject.evaluate env ctx = .ok l) (hl : l.isNull = false)
    (hlower : lower.evaluate env ctx = .ok low) (hlow : low.isNull = false)
    (hupper : upper.evaluate env ctx = .ok high) (hhigh : high.isNull = false)
    (conjunction : Bool) (lowOp highOp : ComparisonOperator) :
    evalMembers env ctx conjunction
        [.comparison false lowOp subject lower, .comparison false highOp subject upper] = (do
      let answer ← env.compare ctx subject.type lower.type l low lowOp
      if answer = some conjunction then env.compare ctx subject.type upper.type l high highOp
      else .ok answer) := by
  rw [evalMembers, Predicate.eval_comparison_of_present h hl,
    Expr.ifPresent_of_present hlower hlow, evalMembers_singleton,
    Predicate.eval_comparison_of_present h hl, Expr.ifPresent_of_present hupper hhigh]

/-- **BETWEEN.** With present operands BETWEEN has the outcome of the conjunction of the comparisons
with its bounds, and NOT BETWEEN that of the disjunction of the inverse ones. The operands are
evaluated in order first: an absent one, with none but present ones before it, makes both unknown,
and an error there is the error of both. -/
theorem eval_between_compound (env : Environment) (ctx : Context) (subject lower upper : Expr) :
    (subject.IsPresent env ctx → lower.IsPresent env ctx → upper.IsPresent env ctx →
      (Predicate.between false subject lower upper).eval env ctx =
          (Predicate.compound false true
            [.comparison false .greaterOrEqual subject lower,
              .comparison false .lowerOrEqual subject upper]).eval env ctx ∧
        (Predicate.between true subject lower upper).eval env ctx =
          (Predicate.compound false false
            [.comparison false .lower subject lower,
              .comparison false .greater subject upper]).eval env ctx) ∧
    ∀ before e after, [subject, lower, upper] = before ++ e :: after →
      (∀ operand ∈ before, operand.IsPresent env ctx) → ∀ negated,
      (e.evaluate env ctx = .ok .null →
        (Predicate.between negated subject lower upper).eval env ctx = .ok none) ∧
      ∀ error, e.evaluate env ctx = .error error →
        (Predicate.between negated subject lower upper).eval env ctx = .error error := by
  constructor
  · rintro ⟨l, h, hl⟩ ⟨low, hlower, hlow⟩ ⟨high, hupper, hhigh⟩
    have hbetween (negated : Bool) : (Predicate.between negated subject lower upper).eval env ctx =
        evalMembers env ctx (!negated)
          [.comparison false (boundOperators negated).1 subject lower,
            .comparison false (boundOperators negated).2 subject upper] := by
      rw [Predicate.eval_between_ifPresent, Expr.ifPresent_of_present h hl,
        Expr.ifPresent_of_present hlower hlow, Expr.ifPresent_of_present hupper hhigh,
        evalMembers_bounds h hl hlower hlow hupper hhigh]
    constructor
    · rw [hbetween, Predicate.eval_compound_plain]
      rfl
    · rw [hbetween, Predicate.eval_compound_plain]
      rfl
  · intro before e after hsplit hbefore negated
    rw [Predicate.eval_between_ifPresent]
    -- up to two operands stand before the one that is absent or fails
    rcases before with _ | ⟨_, _ | ⟨_, _ | ⟨_, before⟩⟩⟩ <;>
      simp only [List.cons_append, List.nil_append, List.cons.injEq] at hsplit
    · obtain ⟨rfl, -⟩ := hsplit
      exact Expr.ifPresent_stops _ _
    · obtain ⟨rfl, rfl, -⟩ := hsplit
      obtain ⟨l, h, hl⟩ := hbefore subject (by simp)
      rw [Expr.ifPresent_of_present h hl]
      exact Expr.ifPresent_stops _ _
    · obtain ⟨rfl, rfl, rfl, -⟩ := hsplit
      obtain ⟨l, h, hl⟩ := hbefore subject (by simp)
      obtain ⟨low, hlower, hlow⟩ := hbefore lower (by simp)
      rw [Expr.ifPresent_of_present h hl, Expr.ifPresent_of_present hlower hlow]
      exact Expr.ifPresent_stops _ _
    · -- three operands have no others behind them
      simp at hsplit

/-- The lower bound settles both forms in front of an upper one that no number is compared with; and of
an absent bound and one that fails the first counts. -/
theorem countRoot_between_compound :
    countRoot.IsPresent .utc ⟨[("count", .integer 2)]⟩ ∧
      (Predicate.between true countRoot (.scalar Standard.integer (.integer 3))
          (.scalar Standard.string (.string "x"))).eval .utc ⟨[("count", .integer 2)]⟩ =
        (Predicate.compound false false [
            .comparison false .lower countRoot (.scalar Standard.integer (.integer 3)),
            .comparison false .greater countRoot (.scalar Standard.string (.string "x"))]).eval
          .utc ⟨[("count", .integer 2)]⟩ ∧
      (Predicate.between true countRoot (.null Standard.integer) missingRoot).eval .utc
          ⟨[("count", .integer 2)]⟩ = .ok none ∧
      (Predicate.between true countRoot missingRoot (.null Standard.integer)).eval .utc
          ⟨[("count", .integer 2)]⟩ = .error (.unboundRoot "missing") := by
  have hpresent : countRoot.IsPresent .utc ⟨[("count", .integer 2)]⟩ := ⟨.integer 2, rfl, rfl⟩
  have hbefore : ∀ operand ∈ [countRoot], operand.IsPresent .utc ⟨[("count", .integer 2)]⟩ :=
    fun operand hoperand => List.mem_singleton.mp hoperand ▸ hpresent
  exact ⟨hpresent,
    ((eval_between_compound .utc _ countRoot _ _).1 hpresent ⟨_, rfl, rfl⟩ ⟨_, rfl, rfl⟩).2,
    ((eval_between_compound .utc _ countRoot (.null Standard.integer) missingRoot).2 [countRoot] _
      [missingRoot] rfl hbefore true).1 rfl,
    ((eval_between_compound .utc _ countRoot missingRoot (.null Standard.integer)).2 [countRoot] _
      [.null Standard.integer] rfl hbefore true).2 _ rfl⟩

end TypedExpr
