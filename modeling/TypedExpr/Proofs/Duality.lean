import TypedExpr.Proofs.Negation

/-!
# De Morgan duality

A negated conjunction answers like the disjunction of its members with their own flags flipped, and
a negated disjunction like the conjunction of them. Both stop at the same member: a member that
settles the one settles the other once it is flipped, an unknown one stays unknown, and one that
fails keeps failing. What lies behind that member is looked at in neither.
-/

namespace TypedExpr

/-- By induction on the members: under the other connective the flipped members are gone through
up to the same one. -/
theorem evalMembers_flipped (env : Environment) (ctx : Context) (conjunction : Bool)
    (members : List Predicate)
    (h : ∀ p ∈ members, ∀ t ∈ p.comparedTypes, t.comparesBuiltIn) :
    (evalMembers env ctx (!conjunction) (members.map .negate)).Negates
      (evalMembers env ctx conjunction members) := by
  induction members with
  | nil => rfl
  | cons p rest ih =>
    rw [List.forall_mem_cons] at h
    have hp : (p.negate.eval env ctx).Negates (p.eval env ctx) :=
      p.eval_negate_negates env ctx h.1
    have hrest : (evalMembers env ctx (!conjunction) (rest.map .negate)).Negates
        (evalMembers env ctx conjunction rest) := ih h.2
    simp only [List.map_cons, evalMembers]
    refine hp.bind fun answer => ?_
    cases answer with
    | none =>
      -- an unknown member ends both
      rfl
    | some b =>
      by_cases hneutral : b = conjunction
      · -- a neutral member leaves both answers to the rest
        subst hneutral
        rw [Option.map_some, if_pos rfl, if_pos rfl]
        exact hrest
      · -- a member that settles the one answer settles the other oppositely
        have hdecisive : (!b) ≠ !conjunction := fun heq => hneutral (Bool.not_inj heq)
        rw [Option.map_some, if_neg (fun heq => hneutral (Option.some.inj heq)),
          if_neg (fun heq => hdecisive (Option.some.inj heq))]
        rfl

/-- **De Morgan.** Over built-in comparison, a compound predicate of flipped members under the other
connective answers like the negated compound predicate: the disjunction of flipped members like the
negated conjunction, and their conjunction like the negated disjunction. Where the one fails, the
other fails with an error of the same kind. -/
theorem eval_dual (env : Environment) (ctx : Context) (negated conjunction : Bool)
    (members : List Predicate)
    (h : ∀ p ∈ members, ∀ t ∈ p.comparedTypes, t.comparesBuiltIn) :
    ((Predicate.compound negated (!conjunction) (members.map .negate)).eval env ctx).Agrees
      ((Predicate.compound (!negated) conjunction members).eval env ctx) := by
  have hmembers := evalMembers_flipped env ctx conjunction members h
  simp only [Predicate.eval]
  refine Outcome.Related.bind hmembers fun opposite answer hopposite => ?_
  rw [hopposite]
  show (answer.map not).map (· != negated) = answer.map (· != !negated)
  rw [Option.map_map]
  refine congrArg (answer.map ·) (funext fun b => ?_)
  cases b <;> cases negated <;> rfl

/-- A day up to the start of 1970, a count other than one and two, and a test that no date passes. -/
def conditions : List Predicate :=
  [.comparison false .lowerOrEqual (.root "day" Standard.date [])
      (.scalar Standard.timestamp (.instant (.startOfDay epochDate))),
    .isIn true (.root "count" Standard.integer [])
      [.scalar Standard.integer (.integer 1), .scalar Standard.decimal (.integer 2)],
    .holds false (.root "day" Standard.date [])]

/-- The count settles both: a day later than 1970 began or a count of one or two is asked for, and
the test behind them, which would fail, is not. -/
theorem conditions_dual :
    (∀ p ∈ conditions, ∀ t ∈ p.comparedTypes, t.comparesBuiltIn) ∧
      (Predicate.compound true true conditions).eval .utc
        ⟨[("day", .date epochDate), ("count", .integer 2)]⟩ = .ok (some true) ∧
      ((Predicate.compound false false (conditions.map .negate)).eval .utc
        ⟨[("day", .date epochDate), ("count", .integer 2)]⟩).Agrees
        ((Predicate.compound true true conditions).eval .utc
          ⟨[("day", .date epochDate), ("count", .integer 2)]⟩) := by
  have hrules : ∀ p ∈ conditions, ∀ t ∈ p.comparedTypes, t.comparesBuiltIn := by decide
  exact ⟨hrules, rfl, eval_dual .utc _ false true conditions hrules⟩

end TypedExpr
