import TypedExpr.Proofs.Outcome
import TypedExpr.Evaluation

/-!
# Interchangeable types

A rule is told the types of its operands. The rules of this library read a type's name and the rules
in its slots; a host's may read its constants and its element type too. An environment identifies
related types if none of its rules tells them apart, also where the view of a call presents them.
-/

namespace TypedExpr

/-- Types of one name and kind, with the same rules in their slots. -/
structure TypeDecl.Alike (a b : TypeDecl) : Prop where
  name : a.name = b.name
  kind : a.kind = b.kind
  comparison : a.comparison = b.comparison
  arithmetic : a.arithmetic = b.arithmetic
  adapter : a.adapter = b.adapter

theorem TypeDecl.Alike.refl (t : TypeDecl) : t.Alike t := ⟨rfl, rfl, rfl, rfl, rfl⟩

variable {R : TypeDecl → TypeDecl → Prop}

/-! ## Views of calls -/

structure Slot.Related (R : TypeDecl → TypeDecl → Prop) (a b : Slot) : Prop where
  value : a.value = b.value
  type : Option.Rel R a.type b.type

namespace Arguments

/-- Views with the same values and with related types. -/
structure Related (R : TypeDecl → TypeDecl → Prop) (a b : Arguments) : Prop where
  assigned : a.assigned = b.assigned
  arity : a.arity = b.arity
  slots : ∀ position : Nat, Option.Rel (Slot.Related R) a.slots[position]? b.slots[position]?

namespace Related

variable {a b : Arguments}

theorem ofArity (arity : Nat) : (Arguments.ofArity arity).Related R (Arguments.ofArity arity) where
  assigned := rfl
  arity := rfl
  slots position := by
    simp only [Arguments.ofArity, List.getElem?_replicate]
    split
    · exact .some ⟨rfl, .none⟩
    · exact .none

theorem eq (h : a.Related Eq b) : a = b := by
  have hslots : a.slots = b.slots := List.ext_getElem? fun position => by
    have hslot := h.slots position
    generalize a.slots[position]? = s, b.slots[position]? = t at hslot ⊢
    cases hslot with
    | none => rfl
    | @some s t hslot =>
      obtain ⟨v, type⟩ := s
      obtain ⟨w, type'⟩ := t
      obtain ⟨rfl, htype⟩ := hslot
      cases htype with
      | none => rfl
      | some htype => rw [htype]
  calc a = ⟨a.slots, a.assigned⟩ := rfl
    _ = ⟨b.slots, b.assigned⟩ := by rw [hslots, h.assigned]

theorem value (h : a.Related R b) (position : Nat) : a.value position = b.value position := by
  have hslot := h.slots position
  unfold Arguments.value slot
  rw [h.arity]
  generalize a.slots[position]? = s, b.slots[position]? = t at hslot ⊢
  cases hslot with
  | none => rfl
  | some hslot => exact congrArg Except.ok hslot.value

theorem assign (h : a.Related R b) (position : Nat) (v : Value) {s t : TypeDecl} (ht : R s t) :
    (a.assign position v s).Related Eq (Arguments.Related R) (b.assign position v t) := by
  have harity : a.slots.length = b.slots.length := h.arity
  unfold Arguments.assign
  rw [h.arity]
  split
  · refine ⟨congrArg (· + 1) h.assigned, ?_, fun i => ?_⟩
    · simp only [Arguments.arity, List.length_set, harity]
    · simp only [List.getElem?_set, harity]
      -- the position itself, or one that the assignment leaves as it is
      split
      · split
        · exact .some ⟨rfl, .some ht⟩
        · exact .none
      · exact h.slots i
  · rfl

end Related

end Arguments

/-! ## Rules -/

/-- No rule of the host tells related types apart. -/
structure Host.Identifies (host : Host) (R : TypeDecl → TypeDecl → Prop) : Prop where
  compare {l' l r' r : TypeDecl} (hl : R l' l) (hr : R r' r) (name : String) (ctx : Context)
    (v w : Value) (op : ComparisonOperator) :
    host.compare name ctx l' r' v w op = host.compare name ctx l r v w op
  calculate {t' t l' l r' r : TypeDecl} (ht : R t' t) (hl : R l' l) (hr : R r' r) (name : String)
    (ctx : Context) (v w : Value) (op : ArithmeticOperator) :
    host.calculate name ctx t' l' r' v w op = host.calculate name ctx t l r v w op
  toModel {t' t : TypeDecl} (ht : R t' t) (name : String) (ctx : Context) (v : Value) :
    host.toModel name ctx v t' = host.toModel name ctx v t
  invoke {args' args : Arguments} (h : args'.Related R args) (name : String) (ctx : Context)
    (f : FunctionDecl) : host.invoke name ctx f args' = host.invoke name ctx f args
  convert {t' t : TypeDecl} (ht : R t' t) (name : String) (ctx : Context) (v : Value) :
    host.convert name ctx v t' = host.convert name ctx v t

/-- No rule at all tells related types apart. -/
structure Environment.Identifies (env : Environment) (R : TypeDecl → TypeDecl → Prop) : Prop where
  refl (t : TypeDecl) : R t t
  alike {a b : TypeDecl} (h : R a b) : a.Alike b
  host : env.host.Identifies R

namespace Environment.Identifies

/-- A type cannot be told from itself, whatever the rules are. -/
theorem eq (env : Environment) : env.Identifies Eq where
  refl _ := rfl
  alike h := h ▸ .refl _
  host :=
    { compare := fun hl hr _ _ _ _ _ => by rw [hl, hr]
      calculate := fun ht hl hr _ _ _ _ _ => by rw [ht, hl, hr]
      toModel := fun ht _ _ _ => by rw [ht]
      invoke := fun h _ _ _ => by rw [h.eq]
      convert := fun ht _ _ _ => by rw [ht] }

theorem of_host {env : Environment} (h : env.host.Identifies TypeDecl.Alike) :
    env.Identifies TypeDecl.Alike where
  refl := .refl
  alike := id
  host := h

variable {env : Environment} (h : env.Identifies R)
include h

theorem compareOwn_eq {l' l r' r : TypeDecl} (hl : R l' l) (hr : R r' r) (rule : ComparisonRule)
    (ctx : Context) (v w : Value) (op : ComparisonOperator) :
    rule.compareOwn env ctx l' r' v w op = rule.compareOwn env ctx l r v w op := by
  cases rule with
  | host name => exact h.host.compare hl hr name ctx v w op
  | _ => rfl

theorem compare_eq {l' l r' r : TypeDecl} (hl : R l' l) (hr : R r' r) (ctx : Context) (v w : Value)
    (op : ComparisonOperator) : env.compare ctx l' r' v w op = env.compare ctx l r v w op := by
  unfold Environment.compare
  rw [(h.alike hl).comparison, (h.alike hl).name]
  split
  · unfold ComparisonRule.compare
    rw [(h.alike hr).comparison]
    split
    · exact h.compareOwn_eq hr hl _ ctx _ _ _
    · exact h.compareOwn_eq hl hr _ ctx _ _ _
  · rfl

theorem calculate_eq {t' t l' l r' r : TypeDecl} (ht : R t' t) (hl : R l' l) (hr : R r' r)
    (ctx : Context) (v w : Value) (op : ArithmeticOperator) :
    env.calculate ctx t' l' r' v w op = env.calculate ctx t l r v w op := by
  unfold Environment.calculate
  rw [(h.alike ht).arithmetic, (h.alike ht).name]
  split
  next rule _ =>
    cases rule with
    | host name => exact h.host.calculate ht hl hr name ctx v w op
    | _ => rfl
  next => rfl

theorem toModel_eq {t' t : TypeDecl} (ht : R t' t) (ctx : Context) (adapter : Option Adapter)
    (v : Value) : env.toModel ctx adapter v t' = env.toModel ctx adapter v t := by
  cases adapter with
  | none => rfl
  | some adapter =>
    cases adapter with
    | host name => exact h.host.toModel ht name ctx v
    | _ => rfl

theorem convert_eq {t' t : TypeDecl} (ht : R t' t) (c : Converter) (ctx : Context) (v : Value) :
    c.convert env ctx v t' = c.convert env ctx v t := by
  cases c with
  | host name => exact h.host.convert ht name ctx v
  | _ => rfl

theorem invoke_eq {args' args : Arguments} (hargs : args'.Related R args) (i : Invoker)
    (ctx : Context) (f : FunctionDecl) : i.invoke env ctx f args' = i.invoke env ctx f args := by
  cases i with
  | host name => exact h.host.invoke hargs name ctx f
  | lower | upper =>
    simp only [Invoker.invoke, Invoker.mapString, Invoker.stringAt, hargs.value]
  | power => simp only [Invoker.invoke, Invoker.callPower, Invoker.floatAt, hargs.value]
  | size => simp only [Invoker.invoke, Invoker.callSize, hargs.value]

end Environment.Identifies

end TypedExpr
