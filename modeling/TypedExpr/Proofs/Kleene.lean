import TypedExpr.Evaluation
import TypedExpr.Standard

/-!
# Compound predicates and Kleene logic

A conjunction or disjunction is evaluated from left to right and ends with the first member that is
unknown, although a later one might settle it. So its answer can be unknown where strong Kleene
logic is definite, but a definite answer is the one of Kleene logic; with definite leaves it is the
classical one, and settling unknown leaves never changes it.

A formula is the part of a predicate that is made of compound predicates, over leaves that may be
predicates of any kind.
-/

namespace TypedExpr

namespace Truth

/-- The second value repeats the first one if that is definite. -/
def Approximates (a b : Truth) : Prop := ∀ c, a = some c → b = some c

theorem Approximates.map {a b : Truth} (h : a.Approximates b) (f : Bool → Bool) :
    Approximates (a.map f) (b.map f) := by
  intro c hc
  obtain ⟨d, hd, rfl⟩ := Option.map_eq_some_iff.mp hc
  rw [h d hd]
  rfl

/-- The strong Kleene conjunction: a false operand settles it, whatever the other one is. -/
def and : Truth → Truth → Truth
  | some false, _ => some false
  | _, some false => some false
  | some true, some true => some true
  | _, _ => none

/-- The strong Kleene disjunction: a true operand settles it, whatever the other one is. -/
def or : Truth → Truth → Truth
  | some true, _ => some true
  | _, some true => some true
  | some false, some false => some false
  | _, _ => none

/-- The connective of a conjunction or a disjunction. -/
def connect (conjunction : Bool) : Truth → Truth → Truth := if conjunction then and else or

/-- A member that settles the answer. -/
theorem connect_decisive (conjunction : Bool) (a : Truth) :
    connect conjunction (some (!conjunction)) a = some (!conjunction) := by
  cases conjunction <;> rfl

/-- A member that leaves the answer to the others. -/
theorem connect_neutral (conjunction : Bool) (a : Truth) :
    connect conjunction (some conjunction) a = a := by
  cases conjunction <;> rcases a with _ | _ | _ <;> rfl

end Truth

/-- Nested conjunctions and disjunctions, each with its flag of negation, over named leaves. -/
inductive Formula (ι : Type) where
  | leaf (i : ι)
  | compound (negated conjunction : Bool) (members : List (Formula ι))

variable {ι : Type}

mutual

/-- The predicate with these predicates at the leaves. -/
def Formula.predicate (leaf : ι → Predicate) : Formula ι → Predicate
  | .leaf i => leaf i
  | .compound negated conjunction members =>
    .compound negated conjunction (memberPredicates leaf members)

def memberPredicates (leaf : ι → Predicate) : List (Formula ι) → List Predicate
  | [] => []
  | f :: rest => f.predicate leaf :: memberPredicates leaf rest

end

mutual

def Formula.leaves : Formula ι → List ι
  | .leaf i => [i]
  | .compound _ _ members => memberLeaves members

def memberLeaves : List (Formula ι) → List ι
  | [] => []
  | f :: rest => f.leaves ++ memberLeaves rest

end

/-! ## Three readings of a formula -/

mutual

/-- The value in strong Kleene logic, which looks at all members. -/
def Formula.kleene (value : ι → Truth) : Formula ι → Truth
  | .leaf i => value i
  | .compound negated conjunction members =>
    (kleeneOfMembers value conjunction members).map fun b => if negated then !b else b

def kleeneOfMembers (value : ι → Truth) (conjunction : Bool) : List (Formula ι) → Truth
  | [] => some conjunction
  | f :: rest => Truth.connect conjunction (f.kleene value) (kleeneOfMembers value conjunction rest)

end

mutual

/-- The value in classical logic. -/
def Formula.classical (value : ι → Bool) : Formula ι → Bool
  | .leaf i => value i
  | .compound negated conjunction members =>
    let holds := if conjunction then allHold value members else anyHolds value members
    if negated then !holds else holds

def allHold (value : ι → Bool) : List (Formula ι) → Bool
  | [] => true
  | f :: rest => f.classical value && allHold value rest

def anyHolds (value : ι → Bool) : List (Formula ι) → Bool
  | [] => false
  | f :: rest => f.classical value || anyHolds value rest

end

mutual

/-- The answer from left to right, which ends with the first member that is unknown or decisive. -/
def Formula.answer (value : ι → Truth) : Formula ι → Truth
  | .leaf i => value i
  | .compound negated conjunction members =>
    (answerOfMembers value conjunction members).map fun b => if negated then !b else b

def answerOfMembers (value : ι → Truth) (conjunction : Bool) : List (Formula ι) → Truth
  | [] => some conjunction
  | f :: rest =>
    if f.answer value = some conjunction then answerOfMembers value conjunction rest
    else f.answer value

end

/-! ## Evaluation -/

section Evaluation

variable {env : Environment} {ctx : Context} {leaf : ι → Predicate} {value : ι → Truth}

theorem flip_eq_ite (negated : Bool) :
    (fun b : Bool => b != negated) = fun b => if negated then !b else b := by
  funext b
  cases b <;> cases negated <;> rfl

mutual

/-- Over leaves without errors the evaluator answers, and from left to right. -/
theorem Formula.eval_predicate : ∀ f : Formula ι,
    (∀ i ∈ f.leaves, (leaf i).eval env ctx = .ok (value i)) →
      (f.predicate leaf).eval env ctx = .ok (f.answer value)
  | .leaf i, h => h i (by simp [Formula.leaves])
  | .compound negated conjunction members, h => by
    have hmembers := evalMembers_predicates conjunction members h
    simp only [Formula.predicate, Predicate.eval, hmembers, Formula.answer, flip_eq_ite]
    rfl

theorem evalMembers_predicates (conjunction : Bool) : ∀ members : List (Formula ι),
    (∀ i ∈ memberLeaves members, (leaf i).eval env ctx = .ok (value i)) →
      evalMembers env ctx conjunction (memberPredicates leaf members) =
        .ok (answerOfMembers value conjunction members)
  | [], _ => rfl
  | f :: rest, h => by
    simp only [memberLeaves, List.mem_append, or_imp, forall_and] at h
    have hf := f.eval_predicate h.1
    have hrest := evalMembers_predicates conjunction rest h.2
    simp only [memberPredicates, evalMembers, hf, hrest, answerOfMembers]
    show (if f.answer value = some conjunction then _ else _) = _
    split <;> rfl

end

end Evaluation

/-! ## Soundness -/

section Soundness

variable {value value' : ι → Truth}

mutual

/-- A definite answer is the value of Kleene logic. -/
theorem Formula.answer_approximates_kleene :
    ∀ f : Formula ι, (f.answer value).Approximates (f.kleene value)
  | .leaf i => fun _ h => h
  | .compound negated conjunction members => by
    simp only [Formula.answer, Formula.kleene]
    exact (answerOfMembers_approximates_kleene conjunction members).map _

theorem answerOfMembers_approximates_kleene (conjunction : Bool) :
    ∀ members : List (Formula ι), (answerOfMembers value conjunction members).Approximates
      (kleeneOfMembers value conjunction members)
  | [] => fun _ h => h
  | f :: rest => by
    have hf := f.answer_approximates_kleene
    have hrest := answerOfMembers_approximates_kleene conjunction rest
    simp only [answerOfMembers, kleeneOfMembers]
    split
    next h =>
      -- a neutral member leaves the answer to the others in both readings
      rw [hf _ h, Truth.connect_neutral]
      exact hrest
    next h =>
      intro c hc
      -- what is definite and not neutral is decisive, and the members behind it do not count
      have hdecisive : c = !conjunction := by
        cases c <;> cases conjunction <;> simp_all
      rw [hf c hc, hdecisive, Truth.connect_decisive]

end

mutual

/-- Settled leaves leave a definite answer as it is. -/
theorem Formula.answer_approximates : ∀ f : Formula ι,
    (∀ i ∈ f.leaves, (value i).Approximates (value' i)) →
      (f.answer value).Approximates (f.answer value')
  | .leaf i, h => h i (by simp [Formula.leaves])
  | .compound negated conjunction members, h => by
    simp only [Formula.answer]
    exact (answerOfMembers_approximates conjunction members h).map _

theorem answerOfMembers_approximates (conjunction : Bool) : ∀ members : List (Formula ι),
    (∀ i ∈ memberLeaves members, (value i).Approximates (value' i)) →
      (answerOfMembers value conjunction members).Approximates
        (answerOfMembers value' conjunction members)
  | [], _ => fun _ h => h
  | f :: rest, h => by
    simp only [memberLeaves, List.mem_append, or_imp, forall_and] at h
    have hf := f.answer_approximates h.1
    have hrest := answerOfMembers_approximates conjunction rest h.2
    simp only [answerOfMembers]
    split
    next hneutral =>
      rw [if_pos (hf _ hneutral)]
      exact hrest
    next hneutral =>
      intro c hc
      -- the member that ended the evaluation is definite, so it ends it again
      have hc' : f.answer value' = some c := hf c hc
      have hne : c ≠ conjunction := fun h => hneutral (h ▸ hc)
      rw [hc', if_neg (by simpa using hne)]

end

mutual

/-- With definite leaves the answer is the classical one. -/
theorem Formula.answer_definite (value : ι → Bool) :
    ∀ f : Formula ι, f.answer (fun i => some (value i)) = some (f.classical value)
  | .leaf i => rfl
  | .compound negated conjunction members => by
    have hmembers := answerOfMembers_definite value conjunction members
    simp only [Formula.answer, hmembers, Formula.classical]
    rfl

theorem answerOfMembers_definite (value : ι → Bool) (conjunction : Bool) :
    ∀ members : List (Formula ι),
      answerOfMembers (fun i => some (value i)) conjunction members =
        some (if conjunction then allHold value members else anyHolds value members)
  | [] => by cases conjunction <;> rfl
  | f :: rest => by
    have hf := f.answer_definite value
    have hrest := answerOfMembers_definite value conjunction rest
    simp only [answerOfMembers, hf, hrest, allHold, anyHolds]
    cases conjunction <;> cases f.classical value <;> rfl

end

end Soundness

/-- **Soundness for Kleene logic.** Over leaves without errors a formula has an answer. If that is
definite, it is the one of strong Kleene logic, and it stays when unknown leaves are settled; if it
is unknown, so is a leaf; and over definite leaves it is the classical one. -/
theorem eval_formula_sound (env : Environment) (ctx : Context) (f : Formula ι)
    (leaf : ι → Predicate) (value : ι → Truth)
    (hleaves : ∀ i ∈ f.leaves, (leaf i).eval env ctx = .ok (value i)) :
    ∃ answer, (f.predicate leaf).eval env ctx = .ok answer ∧
      (∀ b, answer = some b → f.kleene value = some b) ∧
      (answer = none → ∃ i ∈ f.leaves, value i = none) ∧
      (∀ b : ι → Bool, (∀ i ∈ f.leaves, value i = some (b i)) →
        answer = some (f.classical b)) ∧
      ∀ (env' : Environment) (ctx' : Context) (leaf' : ι → Predicate) (value' : ι → Truth),
        (∀ i ∈ f.leaves, (leaf' i).eval env' ctx' = .ok (value' i)) →
        (∀ i ∈ f.leaves, value i = none ∨ value' i = value i) →
        ∀ b, answer = some b → (f.predicate leaf').eval env' ctx' = .ok (some b) := by
  have hclassical (b : ι → Bool) (hb : ∀ i ∈ f.leaves, value i = some (b i)) :
      f.answer value = some (f.classical b) := by
    have hsettled : ∀ i ∈ f.leaves, Truth.Approximates (some (b i)) (value i) :=
      fun i hi c hc => (hb i hi).trans hc
    exact f.answer_approximates hsettled _ (f.answer_definite b)
  have heval := f.eval_predicate hleaves
  refine ⟨f.answer value, heval, f.answer_approximates_kleene, ?_, hclassical, ?_⟩
  · intro hunknown
    by_cases hnone : ∃ i ∈ f.leaves, value i = none
    · exact hnone
    · -- were all leaves definite, then so would be the answer
      have hdefinite : ∀ i ∈ f.leaves, value i = some ((value i).getD false) := by
        intro i hi
        cases h : value i with
        | none => exact absurd ⟨i, hi, h⟩ hnone
        | some b => rfl
      rw [hclassical _ hdefinite] at hunknown
      cases hunknown
  · intro env' ctx' leaf' value' hleaves' hsettled b hb
    have happroximates : ∀ i ∈ f.leaves, (value i).Approximates (value' i) := by
      intro i hi c hc
      rcases hsettled i hi with h | h
      · rw [h] at hc
        cases hc
      · rw [h, hc]
    rw [f.eval_predicate hleaves', f.answer_approximates happroximates b hb]

/-- A root with a truth value. -/
def flag (name : String) : Predicate := .holds false (.root name Standard.boolean [])

/-- Neither of two flags. -/
def neither : Formula String := .compound true false [.leaf "a", .leaf "b"]

/-- The first flag is set, and the second one unknown. -/
def oneSet : String → Truth := fun name => if name = "a" then some true else none

/-- A flag that is set settles the answer in front of an unknown one, and the answer stays when the
other is set too. -/
theorem neither_sound :
    (∀ name ∈ neither.leaves, (flag name).eval .utc ⟨[("a", .boolean true), ("b", .null)]⟩ =
        .ok (oneSet name)) ∧
      neither.kleene oneSet = some false ∧
      (neither.predicate flag).eval .utc ⟨[("a", .boolean true), ("b", .boolean true)]⟩ =
        .ok (some false) := by
  have hleaves : ∀ name ∈ neither.leaves,
      (flag name).eval .utc ⟨[("a", .boolean true), ("b", .null)]⟩ = .ok (oneSet name) ∧
        (flag name).eval .utc ⟨[("a", .boolean true), ("b", .boolean true)]⟩ =
          .ok (some true) ∧ (oneSet name = none ∨ some true = oneSet name) := by
    intro name hname
    simp only [neither, Formula.leaves, memberLeaves, List.cons_append, List.nil_append,
      List.mem_cons, List.not_mem_nil, or_false] at hname
    rcases hname with rfl | rfl
    · exact ⟨rfl, rfl, .inr rfl⟩
    · exact ⟨rfl, rfl, .inl rfl⟩
  have hone : ∀ name ∈ neither.leaves, _ := fun name hname => (hleaves name hname).1
  obtain ⟨answer, heval, hkleene, -, -, hsettled⟩ :=
    eval_formula_sound .utc ⟨[("a", .boolean true), ("b", .null)]⟩ neither flag oneSet hone
  have hanswer : answer = some false := Except.ok.inj (heval.symm.trans rfl)
  refine ⟨hone, hkleene _ hanswer, ?_⟩
  exact hsettled .utc _ flag (fun _ => some true) (fun name hname => (hleaves name hname).2.1)
    (fun name hname => (hleaves name hname).2.2) _ hanswer

/-- Behind an unknown flag the one that is set does not count, as it does in Kleene logic. -/
example :
    (neither.predicate flag).eval .utc ⟨[("a", .null), ("b", .boolean true)]⟩ = .ok none ∧
      neither.kleene (fun name => if name = "b" then some true else none) = some false :=
  ⟨rfl, rfl⟩

end TypedExpr
