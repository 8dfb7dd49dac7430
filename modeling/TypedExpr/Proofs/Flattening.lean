import TypedExpr.Proofs.ShortForms

/-!
# Flattening of compound predicates

The members of a compound predicate are gone through one after the other, so a concatenation of
members is gone through in two parts: the second one is reached only if the first leaves the answer
open. A compound predicate that stands unnegated as a member of one with the same connective may
therefore be replaced by its own members, at any place and to any depth, and no answer, no error and
no unknown changes by it.
-/

namespace TypedExpr

variable {env : Environment} {ctx : Context}

/-! ## Concatenation -/

/-- By induction on the members of the first part. -/
theorem evalMembers_append (conjunction : Bool) (xs ys : List Predicate) :
    evalMembers env ctx conjunction (xs ++ ys) = (do
      let answer ← evalMembers env ctx conjunction xs
      if answer = some conjunction then evalMembers env ctx conjunction ys else .ok answer) := by
  induction xs with
  | nil =>
    show _ = if some conjunction = some conjunction then _ else _
    rw [List.nil_append, if_pos rfl]
  | cons p rest ih =>
    rw [List.cons_append, evalMembers, evalMembers, bind_assoc]
    refine bind_congr fun answer => ?_
    by_cases h : answer = some conjunction
    · rw [if_pos h, if_pos h, ih]
    · -- the member settles the first part, and with it the whole
      rw [if_neg h, if_neg h]
      show _ = if answer = some conjunction then _ else _
      rw [if_neg h]

/-- A part with the neutral answer is as good as none. -/
theorem evalMembers_append_of_neutral {conjunction : Bool} {xs : List Predicate}
    (h : evalMembers env ctx conjunction xs = .ok (some conjunction)) (ys : List Predicate) :
    evalMembers env ctx conjunction (xs ++ ys) = evalMembers env ctx conjunction ys := by
  rw [evalMembers_append, h]
  exact if_pos rfl

/-- A part with any other outcome settles the whole. -/
theorem evalMembers_append_of_settled {conjunction : Bool} {xs : List Predicate}
    (h : evalMembers env ctx conjunction xs ≠ .ok (some conjunction)) (ys : List Predicate) :
    evalMembers env ctx conjunction (xs ++ ys) = evalMembers env ctx conjunction xs := by
  rw [evalMembers_append]
  cases hxs : evalMembers env ctx conjunction xs with
  | error e => rfl
  | ok answer =>
    have hanswer : answer ≠ some conjunction := by
      rintro rfl
      exact h hxs
    exact if_neg hanswer

/-- What lies behind a member that is not neutral does not count: either it is not reached, or that
member ends the evaluation. -/
theorem evalMembers_cut {conjunction : Bool} {p : Predicate}
    (h : p.eval env ctx ≠ .ok (some conjunction)) (xs ys : List Predicate) :
    evalMembers env ctx conjunction (xs ++ p :: ys) =
      evalMembers env ctx conjunction (xs ++ [p]) := by
  have hp : evalMembers env ctx conjunction [p] ≠ .ok (some conjunction) := by
    rw [evalMembers_singleton]
    exact h
  rw [← List.singleton_append, evalMembers_append, evalMembers_append_of_settled hp,
    ← evalMembers_append]

/-- A compound predicate as a member is gone through like its own members. -/
theorem evalMembers_nested (conjunction : Bool) (members rest : List Predicate) :
    evalMembers env ctx conjunction (.compound false conjunction members :: rest) =
      evalMembers env ctx conjunction (members ++ rest) := by
  rw [← List.singleton_append, evalMembers_append, evalMembers_singleton,
    Predicate.eval_compound_plain, ← evalMembers_append]

/-! ## Negation -/

/-- The flag of a compound predicate exchanges true and false, and nothing else. -/
theorem Predicate.eval_compound_negated (conjunction : Bool) (members : List Predicate) :
    (Predicate.compound true conjunction members).eval env ctx =
      Option.map not <$> (Predicate.compound false conjunction members).eval env ctx := by
  rw [eval_compound_plain, Predicate.eval]
  cases evalMembers env ctx conjunction members with
  | error e => rfl
  | ok answer => rcases answer with _ | _ | _ <;> rfl

/-- **Concatenation.** Behind members with the neutral answer (true in a conjunction, false in a
disjunction) a compound predicate has the outcome of the others; any other outcome of the first
members is its own, so nothing behind a member that is decisive, unknown or fails can matter. An
unnegated compound predicate among the members of one with the same connective is replaced by its
own members without a trace. A negated compound predicate has the opposite answers, and is unknown
or fails where the other one is or does. -/
theorem eval_compound_append (env : Environment) (ctx : Context) (conjunction : Bool)
    (xs ys zs : List Predicate) :
    ((Predicate.compound false conjunction xs).eval env ctx = .ok (some conjunction) →
      (Predicate.compound false conjunction (xs ++ ys)).eval env ctx =
        (Predicate.compound false conjunction ys).eval env ctx) ∧
    ((Predicate.compound false conjunction xs).eval env ctx ≠ .ok (some conjunction) →
      (Predicate.compound false conjunction (xs ++ ys)).eval env ctx =
        (Predicate.compound false conjunction xs).eval env ctx) ∧
    (∀ p : Predicate, p.eval env ctx ≠ .ok (some conjunction) →
      (Predicate.compound false conjunction (xs ++ p :: ys)).eval env ctx =
        (Predicate.compound false conjunction (xs ++ [p])).eval env ctx) ∧
    (Predicate.compound false conjunction
        (xs ++ [.compound false conjunction ys] ++ zs)).eval env ctx =
      (Predicate.compound false conjunction (xs ++ ys ++ zs)).eval env ctx ∧
    ∀ members : List Predicate,
      (Predicate.compound true conjunction members).eval env ctx =
        Option.map not <$> (Predicate.compound false conjunction members).eval env ctx := by
  simp only [Predicate.eval_compound_plain]
  refine ⟨fun h => ?_, fun h => ?_, fun p h => ?_, ?_, fun members => ?_⟩
  · exact evalMembers_append_of_neutral h ys
  · exact evalMembers_append_of_settled h ys
  · exact evalMembers_cut h xs ys
  · -- both sides go through `xs` first
    rw [List.append_assoc, List.append_assoc, evalMembers_append, List.singleton_append,
      evalMembers_nested, ← evalMembers_append]
  · rw [Predicate.eval_compound_negated, Predicate.eval_compound_plain]

/-- Whether a root with a count exceeds zero. -/
def positiveCount : Predicate :=
  .comparison false .greater countRoot (.scalar Standard.integer (.integer 0))

/-- A comparison with an absent value. -/
def unknownCount : Predicate := .comparison false .equal countRoot (.null Standard.integer)

/-- A test of a root that is not bound. -/
def missingTest : Predicate := .isNull false missingRoot

/-- A true member leaves the answer to the unknown one behind it; that one settles the conjunction in
front of a test that fails; and a test that fails settles it in front of the unknown one. -/
theorem positiveCount_compound_append :
    (Predicate.compound false true [positiveCount]).eval .utc ⟨[("count", .integer 2)]⟩ =
        .ok (some true) ∧
      (Predicate.compound false true [positiveCount, unknownCount]).eval .utc
          ⟨[("count", .integer 2)]⟩ =
        (Predicate.compound false true [unknownCount]).eval .utc ⟨[("count", .integer 2)]⟩ ∧
      (Predicate.compound false true [positiveCount, unknownCount]).eval .utc
          ⟨[("count", .integer 2)]⟩ ≠ .ok (some true) ∧
      (Predicate.compound false true [positiveCount, unknownCount, missingTest]).eval .utc
          ⟨[("count", .integer 2)]⟩ =
        (Predicate.compound false true [positiveCount, unknownCount]).eval .utc
          ⟨[("count", .integer 2)]⟩ ∧
      missingTest.eval .utc ⟨[("count", .integer 2)]⟩ ≠ .ok (some true) ∧
      (Predicate.compound false true [positiveCount, missingTest, unknownCount]).eval .utc
          ⟨[("count", .integer 2)]⟩ =
        (Predicate.compound false true [positiveCount, missingTest]).eval .utc
          ⟨[("count", .integer 2)]⟩ := by
  have htrue : (Predicate.compound false true [positiveCount]).eval .utc
      ⟨[("count", .integer 2)]⟩ = .ok (some true) := rfl
  have hunknown : (Predicate.compound false true [positiveCount, unknownCount]).eval .utc
      ⟨[("count", .integer 2)]⟩ ≠ .ok (some true) := by
    intro h
    cases h
  have hfails : missingTest.eval .utc ⟨[("count", .integer 2)]⟩ ≠ .ok (some true) := by
    intro h
    cases h
  obtain ⟨hneutral, -, hcut, -⟩ := eval_compound_append .utc ⟨[("count", .integer 2)]⟩ true
    [positiveCount] [unknownCount] []
  obtain ⟨-, hsettled, -⟩ := eval_compound_append .utc ⟨[("count", .integer 2)]⟩ true
    [positiveCount, unknownCount] [missingTest] []
  exact ⟨htrue, hneutral htrue, hunknown, hsettled hunknown, hfails, hcut missingTest hfails⟩

/-! ## Flat predicates -/

namespace Predicate

/-- Whether the predicate is an unnegated compound of the connective. -/
def isPartOf (conjunction : Bool) : Predicate → Bool
  | .compound negated own _ => !negated && own == conjunction
  | _ => false

/-- The members that stand for the predicate in a compound of the connective. -/
def spliced (conjunction : Bool) : Predicate → List Predicate
  | .compound false own members =>
    if own = conjunction then members else [.compound false own members]
  | p => [p]

end Predicate

mutual

/-- The predicate with compounds replaced by their members wherever that is possible, from the
innermost ones outwards. -/
def Predicate.flatten : Predicate → Predicate
  | .compound negated conjunction members =>
    .compound negated conjunction (flattenMembers conjunction members)
  | p => p

def flattenMembers (conjunction : Bool) : List Predicate → List Predicate
  | [] => []
  | p :: rest => p.flatten.spliced conjunction ++ flattenMembers conjunction rest

end

mutual

/-- Whether no compound below could be replaced by its members. -/
def Predicate.isFlat : Predicate → Bool
  | .compound _ conjunction members => areFlat conjunction members
  | _ => true

def areFlat (conjunction : Bool) : List Predicate → Bool
  | [] => true
  | p :: rest => p.isFlat && !p.isPartOf conjunction && areFlat conjunction rest

end

theorem areFlat_append (conjunction : Bool) (xs ys : List Predicate) :
    areFlat conjunction (xs ++ ys) = (areFlat conjunction xs && areFlat conjunction ys) := by
  induction xs with
  | nil => rfl
  | cons p rest ih => simp only [List.cons_append, areFlat, ih, Bool.and_assoc]

namespace Predicate

theorem evalMembers_spliced (conjunction : Bool) (p : Predicate) :
    evalMembers env ctx conjunction (p.spliced conjunction) = p.eval env ctx := by
  unfold spliced
  split
  next own members =>
    split
    next h => rw [eval_compound_plain, h]
    next => exact evalMembers_singleton conjunction _
  next => exact evalMembers_singleton conjunction p

theorem areFlat_spliced {p : Predicate} (h : p.isFlat) (conjunction : Bool) :
    areFlat conjunction (p.spliced conjunction) := by
  unfold spliced
  split
  next own members =>
    split
    next heq =>
      rw [← heq]
      exact h
    next hne => simp [areFlat, h, isPartOf, hne]
  next hother =>
    -- what is left is no compound, or a negated one
    have hpart : p.isPartOf conjunction = false := by
      cases p with
      | compound negated own members =>
        cases negated with
        | false => exact absurd rfl (hother own members)
        | true => rfl
      | _ => rfl
    simp [areFlat, h, hpart]

end Predicate

mutual

theorem Predicate.eval_flatten : ∀ p : Predicate, p.flatten.eval env ctx = p.eval env ctx
  | .compound negated conjunction members => by
    rw [Predicate.flatten, Predicate.eval, Predicate.eval,
      evalMembers_flattenMembers conjunction members]
  | .comparison .. | .between .. | .isIn .. | .isNull .. | .isEmpty .. | .holds .. => rfl

theorem evalMembers_flattenMembers (conjunction : Bool) : ∀ members : List Predicate,
    evalMembers env ctx conjunction (flattenMembers conjunction members) =
      evalMembers env ctx conjunction members
  | [] => rfl
  | p :: rest => by
    have hp := p.eval_flatten
    have hrest := evalMembers_flattenMembers conjunction rest
    rw [flattenMembers, evalMembers_append, Predicate.evalMembers_spliced, hp, hrest, evalMembers]

end

mutual

theorem Predicate.isFlat_flatten : ∀ p : Predicate, p.flatten.isFlat
  | .compound _ conjunction members => areFlat_flattenMembers conjunction members
  | .comparison .. | .between .. | .isIn .. | .isNull .. | .isEmpty .. | .holds .. => rfl

theorem areFlat_flattenMembers (conjunction : Bool) : ∀ members : List Predicate,
    areFlat conjunction (flattenMembers conjunction members)
  | [] => rfl
  | p :: rest => by
    have hp := Predicate.areFlat_spliced p.isFlat_flatten conjunction
    have hrest := areFlat_flattenMembers conjunction rest
    rw [flattenMembers, areFlat_append, hp, hrest]
    rfl

end

/-- A disjunction in a conjunction stays, and so does a negated conjunction. -/
example :
    (Predicate.compound true true [.compound false true [positiveCount, .compound false true []],
      .compound false false [missingTest], .compound true true [unknownCount]]).flatten =
    .compound true true [positiveCount, .compound false false [missingTest],
      .compound true true [unknownCount]] := rfl

end TypedExpr
