import TypedExpr.Error

/-!
# Properties of outcomes

An outcome yields a property if its result has it, and is safe for one if it also cannot fail but in
arithmetic; two outcomes are related if their results are, or their errors; an outcome persists if
only a root that it missed can change it. Each of these passes through a sequence of steps, so a
proof about evaluation goes step by step along the evaluator.
-/

namespace TypedExpr

variable {α β : Type}

/-- The failures that arithmetic has on operands of the right types too. -/
def EvalError.IsArithmetic (e : EvalError) : Prop := e.kind = .divisionByZero ∨ e.kind = .overflow

namespace Outcome

/-! ## Properties -/

/-- A result with one property, or an error with the other. -/
def Satisfies (E : EvalError → Prop) (P : α → Prop) : Outcome α → Prop
  | .ok a => P a
  | .error e => E e

theorem Satisfies.bind {E : EvalError → Prop} {P : α → Prop} {Q : β → Prop} {x : Outcome α}
    {f : α → Outcome β} (hx : x.Satisfies E P) (hf : ∀ a, P a → (f a).Satisfies E Q) :
    Outcome.Satisfies E Q (x >>= f) := by
  cases x with
  | ok a => exact hf a hx
  | error e => exact hx

theorem Satisfies.map {E : EvalError → Prop} {P : α → Prop} {Q : β → Prop} {x : Outcome α}
    {f : α → β} (hx : x.Satisfies E P) (hf : ∀ a, P a → Q (f a)) :
    Outcome.Satisfies E Q (f <$> x) := by
  cases x with
  | ok a => exact hf a hx
  | error e => exact hx

/-- A result with the property, if there is a result. -/
abbrev Yields : (α → Prop) → Outcome α → Prop := Satisfies fun _ => True

theorem Yields.mono {P Q : α → Prop} {x : Outcome α} (hx : x.Yields P) (h : ∀ a, P a → Q a) :
    x.Yields Q := by
  cases x with
  | ok a => exact h a hx
  | error e => trivial

/-- A property of what the last step yields needs nothing of the steps before. -/
theorem yields_bind {P : β → Prop} (x : Outcome α) {f : α → Outcome β}
    (hf : ∀ a, (f a).Yields P) : Outcome.Yields P (x >>= f) := by
  cases x with
  | ok a => exact hf a
  | error e => trivial

/-- A result with the property, or a failure of arithmetic. -/
abbrev Safe : (α → Prop) → Outcome α → Prop := Satisfies EvalError.IsArithmetic

/-! ## Relations -/

/-- Results that are related, or errors that are. -/
def Related {β : Type} (E : EvalError → EvalError → Prop) (P : α → β → Prop) :
    Outcome α → Outcome β → Prop
  | .ok a, .ok b => P a b
  | .error e, .error f => E e f
  | _, _ => False

theorem Related.bind {α' β' : Type} {E : EvalError → EvalError → Prop} {P : α → α' → Prop}
    {Q : β → β' → Prop} {x : Outcome α} {y : Outcome α'} {f : α → Outcome β}
    {g : α' → Outcome β'} (hxy : x.Related E P y) (hfg : ∀ a b, P a b → (f a).Related E Q (g b)) :
    Outcome.Related E Q (x >>= f) (y >>= g) := by
  cases x <;> cases y <;> simp only [Related] at hxy
  · exact hxy
  · exact hfg _ _ hxy

/-- The step that both sides take first. -/
theorem Related.bind_same {γ : Type} {E : EvalError → EvalError → Prop} {Q : β → γ → Prop}
    (hE : ∀ e, E e e) (x : Outcome α) {f : α → Outcome β} {g : α → Outcome γ}
    (hfg : ∀ a, (f a).Related E Q (g a)) : Outcome.Related E Q (x >>= f) (x >>= g) := by
  cases x with
  | ok a => exact hfg a
  | error e => exact hE e

/-- Steps that do not tell related results apart end alike. -/
theorem Related.bind_eq {α' : Type} {P : α → α' → Prop} {x : Outcome α} {y : Outcome α'}
    {f : α → Outcome β} {g : α' → Outcome β} (hxy : x.Related Eq P y)
    (hfg : ∀ a b, P a b → f a = g b) : x >>= f = y >>= g := by
  cases x <;> cases y <;> simp only [Related] at hxy
  · exact congrArg Except.error hxy
  · exact hfg _ _ hxy

/-- The same result, or errors of one kind. -/
def Agrees : Outcome α → Outcome α → Prop := Related (fun e f => e.kind = f.kind) Eq

theorem Agrees.of_eq {x y : Outcome α} (h : x = y) : x.Agrees y := by
  subst h
  cases x <;> exact rfl

/-! ## Persistence -/

/-- Whether the second outcome repeats the first, unless the first misses a root. -/
def Persists (x y : Outcome α) : Prop := (∃ root, x = .error (.unboundRoot root)) ∨ y = x

theorem Persists.refl (x : Outcome α) : x.Persists x := .inr rfl

/-- A step behind a missed root is not taken, so it may do as it likes. -/
theorem Persists.bind {x y : Outcome α} {f g : α → Outcome β} (hxy : x.Persists y)
    (hfg : ∀ a, (f a).Persists (g a)) : Outcome.Persists (x >>= f) (y >>= g) := by
  rcases hxy with ⟨root, rfl⟩ | rfl
  · exact .inl ⟨root, rfl⟩
  · cases y with
    | ok a => exact hfg a
    | error e => exact .refl _

theorem Persists.eq {x y : Outcome α} (h : x.Persists y)
    (hx : ∀ root, x ≠ .error (.unboundRoot root)) : y = x := by
  rcases h with ⟨root, hroot⟩ | h
  · exact absurd hroot (hx root)
  · exact h

end Outcome

end TypedExpr
