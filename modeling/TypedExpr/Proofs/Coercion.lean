import TypedExpr.Evaluation
import TypedExpr.Standard

/-!
# Coercion to a kind

A converter is looked up by the kind of the value at hand and the kind that is wanted. Every
standard converter is registered under the kinds that it takes and makes, so it never meets a value
that it does not take, and what it makes is of the kind that is wanted.
-/

namespace TypedExpr

namespace ValueKind

/-- The pairs of kinds between which the standard model converts, and how. -/
inductive ConvertsBy : ValueKind → ValueKind → Converter → Prop
  | widened : ConvertsBy .integer .decimal .integerToDecimal
  | started : ConvertsBy .date .instant .dateToInstant
  | dated : ConvertsBy .instant .date .instantToDate
  | shown {k : ValueKind}
      (h : k ∈ [.boolean, .integer, .decimal, .date, .instant, .interval, .enumeration]) :
      ConvertsBy k .string .display

def ConvertsTo (source target : ValueKind) : Prop := ∃ c, ConvertsBy source target c

end ValueKind

/-! ## Standard converters -/

variable {source target : ValueKind} {c : Converter}

namespace Standard

theorem mem_converters_iff : (source, target, c) ∈ converters ↔ source.ConvertsBy target c := by
  constructor
  · intro h
    rcases List.mem_append.mp h with h | h
    · simp only [List.mem_cons, List.not_mem_nil, or_false] at h
      rcases h with heq | heq | heq <;> cases heq
      · exact .widened
      · exact .started
      · exact .dated
    · obtain ⟨k, hk, heq⟩ := List.mem_map.mp h
      cases heq
      exact .shown hk
  · intro h
    cases h with
    | widened | started | dated => decide
    | shown h => exact List.mem_append_right _ (List.mem_map.mpr ⟨source, h, rfl⟩)

/-- No two standard converters are registered under the same kinds. -/
theorem converter?_eq_some_iff :
    model.converter? source target = some c ↔ source.ConvertsBy target c := by
  have hentries : model.converters.entries = converters.map fun e => ((e.1, e.2.1), e.2.2) := rfl
  have hkeys : (Dictionary.keys model.converters.entries).Nodup := by decide
  have hmem : ((source, target), c) ∈ model.converters.entries ↔
      (source, target, c) ∈ converters := by
    rw [hentries, List.mem_map]
    constructor
    · rintro ⟨⟨s, t, c'⟩, h, heq⟩
      cases heq
      exact h
    · exact fun h => ⟨_, h, rfl⟩
  -- the kinds differ from entry to entry, so what is registered is also found
  rw [← mem_converters_iff, ← hmem]
  exact ⟨Dictionary.mem_of_get?, Dictionary.get?_of_mem hkeys⟩

end Standard

/-- A converter takes every value of the kind that it is registered under. -/
theorem ValueKind.ConvertsBy.convert_eq_ok (h : source.ConvertsBy target c) (env : Environment)
    (ctx : Context) (type : TypeDecl) {v : Value} (hv : v.kind = some source) :
    ∃ w, c.convert env ctx v type = .ok w ∧ w.kind = some target := by
  cases h with
  | widened =>
    cases v with
    | integer i => exact ⟨.decimal (.ofInt64 i), rfl, rfl⟩
    | _ => cases hv
  | started =>
    cases v with
    | date d => exact ⟨.instant (.startOfDay d), rfl, rfl⟩
    | _ => cases hv
  | dated =>
    cases v with
    | instant t => exact ⟨.date t.date, rfl, rfl⟩
    | _ => cases hv
  | shown => exact ⟨.string v.text, rfl, rfl⟩

/-! ## Coercion -/

/-- A model with the converters of the standard model, whatever else it registers. -/
def Model.ConvertsAsStandard (model : Model) : Prop :=
  ∀ source target, model.converter? source target = Standard.model.converter? source target

theorem Model.ConvertsAsStandard.converter?_eq_some_iff {model : Model}
    (h : model.ConvertsAsStandard) :
    model.converter? source target = some c ↔ source.ConvertsBy target c := by
  rw [h, Standard.converter?_eq_some_iff]

/-- What becomes of the outcome of an expression of which a kind is wanted. -/
inductive Coerces (wanted : ValueKind) : Outcome Value → Outcome Value → Prop
  | failed (error : EvalError) : Coerces wanted (.error error) (.error error)
  | absent : Coerces wanted (.ok .null) (.ok .null)
  | kept {v : Value} (h : v.kind = some wanted) : Coerces wanted (.ok v) (.ok v)
  | converted {v w : Value} {found : ValueKind} (hv : v.kind = some found) (hne : found ≠ wanted)
      (h : found.ConvertsTo wanted) (hw : w.kind = some wanted) : Coerces wanted (.ok v) (.ok w)
  | refused {v : Value} {found : ValueKind} (hv : v.kind = some found) (hne : found ≠ wanted)
      (h : ¬ found.ConvertsTo wanted) :
      Coerces wanted (.ok v) (.error (.noConverter found wanted))

theorem Coerces.absent_or_kind_eq {wanted : ValueKind} {x : Outcome Value} {w : Value}
    (h : Coerces wanted x (.ok w)) : w = .null ∨ w.kind = some wanted := by
  cases h with
  | absent => exact .inl rfl
  | kept h => exact .inr h
  | converted _ _ _ hw => exact .inr hw

namespace Expr

variable {model : Model} (hmodel : model.ConvertsAsStandard)
include hmodel

theorem evaluateToKind_coerces (env : Environment) (ctx : Context) (wanted : ValueKind)
    (e : Expr) :
    Coerces wanted (e.evaluate env ctx) (e.evaluateToKind env model ctx wanted) := by
  unfold evaluateToKind
  cases e.evaluate env ctx with
  | error error => exact .failed error
  | ok v =>
    simp only [bind, Except.bind]
    split
    next hnull =>
      cases v with
      | null => exact .absent
      | _ => cases hnull
    next found hv =>
      split
      next heq => exact .kept (heq ▸ hv)
      next hne =>
        split
        next c hc =>
          have hconverts := hmodel.converter?_eq_some_iff.mp hc
          obtain ⟨w, hw, hkind⟩ := hconverts.convert_eq_ok env ctx e.type hv
          rw [hw]
          exact .converted hv hne ⟨c, hconverts⟩ hkind
        next hc =>
          refine .refused hv hne fun ⟨c, hconverts⟩ => ?_
          rw [hmodel.converter?_eq_some_iff.mpr hconverts] at hc
          cases hc

end Expr

/-- **Coercion.** With the standard converters, an expression of which a kind is wanted fails as it
does by itself; what is absent or of that kind already stays as it is; an integer becomes a decimal,
a date an instant, an instant a date and any scalar a string; and nothing else is converted. So a
result is absent or of the kind that is wanted, and no converter meets a value of another kind than
it takes. -/
theorem coercion_to_kind {model : Model} (hmodel : model.ConvertsAsStandard) (env : Environment)
    (ctx : Context) (wanted : ValueKind) (e : Expr) :
    Coerces wanted (e.evaluate env ctx) (e.evaluateToKind env model ctx wanted) ∧
      (∀ w, e.evaluateToKind env model ctx wanted = .ok w → w = .null ∨ w.kind = some wanted) ∧
      ∀ v found c type, v.kind = some found → model.converter? found wanted = some c →
        ∀ expected actual, c.convert env ctx v type ≠ .error (.typeMismatch expected actual) := by
  have hcoerces := e.evaluateToKind_coerces hmodel env ctx wanted
  refine ⟨hcoerces, ?_, ?_⟩
  · intro w hw
    rw [hw] at hcoerces
    exact hcoerces.absent_or_kind_eq
  · intro v found c type hv hc expected actual herror
    obtain ⟨w, hw, -⟩ :=
      (hmodel.converter?_eq_some_iff.mp hc).convert_eq_ok env ctx type hv
    rw [hw] at herror
    cases herror

/-- A visit whose start is kept as milliseconds. -/
def since : Attribute := ⟨"Visit", "since", Standard.timestamp, some .entity, some .epochMillis⟩

/-- The standard model with a type and an attribute of its own. -/
def visitModel : Model := (Standard.model.addType (.bare "Visit" .entity)).addAttribute since

/-- A visit that started a second after 1970 began. -/
def visited : Context := ⟨[("visit", .entity "Visit" [("since", .integer 1000)])]⟩

/-- It is the instant that is converted, and not the integer that it was read from. -/
theorem since_coerced :
    visitModel.ConvertsAsStandard ∧
      Coerces .date
        (.ok (.instant ⟨⟨719162, by decide, by decide⟩, 1, 0, by decide, by decide⟩))
        ((Expr.root "visit" (.bare "Visit" .entity) [since]).evaluateToKind .utc visitModel visited
          .date) := by
  have hmodel : visitModel.ConvertsAsStandard := by
    intro source target
    rw [Model.converter?, visitModel, Model.addAttribute, Model.addType, Model.converter?]
  exact ⟨hmodel, (coercion_to_kind hmodel .utc visited .date
    (.root "visit" (.bare "Visit" .entity) [since])).1⟩

end TypedExpr
