import TypedExpr.Proofs.Interchange
import TypedExpr.Proofs.Operands
import TypedExpr.Standard

/-!
# Replacement

An expression with a hole stands for a place in a tree. Two expressions of one type with one value
or one error can stand for each other at every place inside a larger expression: no outcome of an
entry point tells them apart, whatever adapters they leave in effect. This holds for every host.

The type counts as a whole, since a host's rule may look at the constants or the items that it
declares. Name, kind and slots are enough where no rule of the host looks at more.
-/

namespace TypedExpr

mutual

/-- An expression with one place left open. -/
inductive ExprHole where
  | here
  | item (type : TypeDecl) (before : List Expr) (hole : ExprHole) (after : List Expr)
  | base (hole : ExprHole) (attributes : List Attribute)
  | operand (inverted : Bool) (hole : ExprHole)
  | left (type : TypeDecl) (op : ArithmeticOperator) (hole : ExprHole) (right : Expr)
  | right (type : TypeDecl) (op : ArithmeticOperator) (left : Expr) (hole : ExprHole)
  | argument (function : FunctionDecl) (before : Bindings) (p : Parameter) (hole : ExprHole)
      (after : Bindings)
  | predicate (type : TypeDecl) (hole : PredicateHole)

/-- A predicate with one place left open. -/
inductive PredicateHole where
  | comparisonLeft (negated : Bool) (op : ComparisonOperator) (hole : ExprHole) (right : Expr)
  | comparisonRight (negated : Bool) (op : ComparisonOperator) (left : Expr) (hole : ExprHole)
  | betweenLeft (negated : Bool) (hole : ExprHole) (lower upper : Expr)
  | betweenLower (negated : Bool) (left : Expr) (hole : ExprHole) (upper : Expr)
  | betweenUpper (negated : Bool) (left lower : Expr) (hole : ExprHole)
  | inLeft (negated : Bool) (hole : ExprHole) (items : List Expr)
  | inItem (negated : Bool) (left : Expr) (before : List Expr) (hole : ExprHole)
      (after : List Expr)
  | member (negated conjunction : Bool) (before : List Predicate) (hole : PredicateHole)
      (after : List Predicate)
  | isNull (negated : Bool) (hole : ExprHole)
  | isEmpty (negated : Bool) (hole : ExprHole)
  | holds (negated : Bool) (hole : ExprHole)

end

/-- Whether the place is inside a larger expression. -/
def ExprHole.IsProper : ExprHole → Prop
  | .here => False
  | _ => True

mutual

def ExprHole.plug (s : Expr) : ExprHole → Expr
  | .here => s
  | .item type before hole after => .collection type (before ++ hole.plug s :: after)
  | .base hole attributes => .path (hole.plug s) attributes
  | .operand inverted hole => .factor inverted (hole.plug s)
  | .left type op hole right => .arithmetic type op (hole.plug s) right
  | .right type op left hole => .arithmetic type op left (hole.plug s)
  | .argument function before p hole after => .call function (before ++ (p, hole.plug s) :: after)
  | .predicate type hole => .predicate type (hole.plug s)

def PredicateHole.plug (s : Expr) : PredicateHole → Predicate
  | .comparisonLeft negated op hole right => .comparison negated op (hole.plug s) right
  | .comparisonRight negated op left hole => .comparison negated op left (hole.plug s)
  | .betweenLeft negated hole lower upper => .between negated (hole.plug s) lower upper
  | .betweenLower negated left hole upper => .between negated left (hole.plug s) upper
  | .betweenUpper negated left lower hole => .between negated left lower (hole.plug s)
  | .inLeft negated hole items => .isIn negated (hole.plug s) items
  | .inItem negated left before hole after => .isIn negated left (before ++ hole.plug s :: after)
  | .member negated conjunction before hole after =>
    .compound negated conjunction (before ++ hole.plug s :: after)
  | .isNull negated hole => .isNull negated (hole.plug s)
  | .isEmpty negated hole => .isEmpty negated (hole.plug s)
  | .holds negated hole => .holds negated (hole.plug s)

end

variable {R : TypeDecl → TypeDecl → Prop} {env : Environment} {ctx : Context}

/-- What a node sees of an operand: its type, as far as rules tell types apart, and its value or
error. -/
structure Expr.Matches (R : TypeDecl → TypeDecl → Prop) (env : Environment) (ctx : Context)
    (e' e : Expr) : Prop where
  type : R e'.type e.type
  value : e'.evaluate env ctx = e.evaluate env ctx

/-! ## Lists of operands -/

section Lists

variable {e' e : Expr}

theorem evalItems_replace (he : e'.Matches R env ctx e) (before after : List Expr) :
    evalItems env ctx (before ++ e' :: after) = evalItems env ctx (before ++ e :: after) := by
  induction before with
  | nil => simp only [List.nil_append, evalItems_cons, he.value]
  | cons first before ih => simp only [List.cons_append, evalItems_cons, ih]

theorem evalMembers_replace {p' p : Predicate} (hp : p'.eval env ctx = p.eval env ctx)
    (conjunction : Bool) (before after : List Predicate) :
    evalMembers env ctx conjunction (before ++ p' :: after) =
      evalMembers env ctx conjunction (before ++ p :: after) := by
  induction before with
  | nil => simp only [List.nil_append, evalMembers, hp]
  | cons first before ih => simp only [List.cons_append, evalMembers, ih]

variable (h : env.Identifies R)
include h

theorem evalOneOf_left {l' l : TypeDecl} (hl : R l' l) (negated : Bool) (v : Value)
    (items : List Expr) :
    evalOneOf env ctx negated l' v items = evalOneOf env ctx negated l v items := by
  induction items with
  | nil => rfl
  | cons item rest ih => simp only [evalOneOf_cons, h.compare_eq hl (h.refl _), ih]

theorem evalOneOf_replace (he : e'.Matches R env ctx e) (negated : Bool) (leftType : TypeDecl)
    (l : Value) (before after : List Expr) :
    evalOneOf env ctx negated leftType l (before ++ e' :: after) =
      evalOneOf env ctx negated leftType l (before ++ e :: after) := by
  induction before with
  | nil =>
    simp only [List.nil_append, evalOneOf_cons, he.value, h.compare_eq (h.refl leftType) he.type]
  | cons first before ih => simp only [List.cons_append, evalOneOf_cons, ih]

/-- Bindings assign to related views alike. -/
theorem evalBindings_related (bindings : Bindings) {args' args : Arguments}
    (hargs : args'.Related R args) :
    (evalBindings env ctx bindings args').Related Eq (Arguments.Related R)
      (evalBindings env ctx bindings args) := by
  induction bindings generalizing args' args with
  | nil => exact hargs
  | cons first rest ih =>
    obtain ⟨p, e⟩ := first
    simp only [evalBindings_cons]
    refine .bind_same (fun _ => rfl) _ fun v => .bind_same (fun _ => rfl) _ fun argument => ?_
    exact (hargs.assign p.position argument (h.refl e.type)).bind fun _ _ => ih

theorem evalBindings_replace (he : e'.Matches R env ctx e) (before after : Bindings)
    (p : Parameter) {args' args : Arguments} (hargs : args'.Related R args) :
    (evalBindings env ctx (before ++ (p, e') :: after) args').Related Eq (Arguments.Related R)
      (evalBindings env ctx (before ++ (p, e) :: after) args) := by
  induction before generalizing args' args with
  | nil =>
    simp only [List.nil_append, evalBindings_cons, he.value]
    refine .bind_same (fun _ => rfl) _ fun v => .bind_same (fun _ => rfl) _ fun argument => ?_
    exact (hargs.assign p.position argument he.type).bind fun _ _ => evalBindings_related h after
  | cons first before ih =>
    obtain ⟨q, f⟩ := first
    simp only [List.cons_append, evalBindings_cons]
    refine .bind_same (fun _ => rfl) _ fun v => .bind_same (fun _ => rfl) _ fun argument => ?_
    exact (hargs.assign q.position argument (h.refl f.type)).bind fun _ _ => ih

end Lists

/-! ## Trees -/

/-- At a proper place the whole outcome stays, with its adapter; at the place itself only what a
node around it would see. -/
structure ExprHole.Keeps (R : TypeDecl → TypeDecl → Prop) (env : Environment) (ctx : Context)
    (hole : ExprHole) (s' s : Expr) : Prop where
  seen : (hole.plug s').Matches R env ctx (hole.plug s)
  eval : hole.IsProper → (hole.plug s').eval env ctx = (hole.plug s).eval env ctx

theorem ExprHole.Keeps.of_eval {hole : ExprHole} {s' s : Expr}
    (htype : R (hole.plug s').type (hole.plug s).type)
    (heval : (hole.plug s').eval env ctx = (hole.plug s).eval env ctx) :
    hole.Keeps R env ctx s' s where
  seen := ⟨htype, by simp only [Expr.evaluate, heval]⟩
  eval _ := heval

theorem pathType_related (h : env.Identifies R) {t' t : TypeDecl} (ht : R t' t)
    (attributes : List Attribute) : R (pathType t' attributes) (pathType t attributes) := by
  unfold pathType
  cases attributes.getLast? with
  | none => exact ht
  | some a => exact h.refl a.type

mutual

theorem ExprHole.keeps {s' s : Expr} (h : env.Identifies R) (hs : s'.Matches R env ctx s) :
    ∀ hole : ExprHole, hole.Keeps R env ctx s' s
  -- at the place itself the two may differ in the adapter that they leave in effect
  | .here => ⟨hs, False.elim⟩
  | .item type before hole after => by
    have hseen := (hole.keeps h hs).seen
    refine .of_eval (h.refl type) ?_
    simp only [ExprHole.plug, Expr.eval, evalItems_replace hseen]
  | .base hole attributes => by
    have hseen := (hole.keeps h hs).seen
    refine .of_eval (pathType_related h hseen.type attributes) ?_
    simp only [ExprHole.plug, Expr.eval_path, hseen.value]
  | .operand inverted hole => by
    have hseen := (hole.keeps h hs).seen
    refine .of_eval hseen.type ?_
    simp only [ExprHole.plug, Expr.eval_factor, hseen.value,
      h.calculate_eq hseen.type hseen.type hseen.type]
  | .left type op hole right => by
    have hseen := (hole.keeps h hs).seen
    refine .of_eval (h.refl type) ?_
    simp only [ExprHole.plug, Expr.eval_arithmetic, hseen.value,
      h.calculate_eq (h.refl type) hseen.type (h.refl right.type)]
  | .right type op left hole => by
    have hseen := (hole.keeps h hs).seen
    refine .of_eval (h.refl type) ?_
    simp only [ExprHole.plug, Expr.eval_arithmetic, hseen.value,
      h.calculate_eq (h.refl type) (h.refl left.type) hseen.type]
  | .argument function before p hole after => by
    have hseen := (hole.keeps h hs).seen
    refine .of_eval (h.refl function.resultType) ?_
    simp only [ExprHole.plug, Expr.eval]
    split
    · rfl
    next invoker _ =>
      -- the view of the arguments holds the types that they are declared with, which may differ
      have hargs := evalBindings_replace h hseen before after p (.ofArity function.arity)
      exact hargs.bind_eq fun args' args hrelated => by rw [h.invoke_eq hrelated]
  | .predicate type hole => by
    refine .of_eval (h.refl type) ?_
    simp only [ExprHole.plug, Expr.eval, hole.eval_plug h hs]

theorem PredicateHole.eval_plug {s' s : Expr} (h : env.Identifies R)
    (hs : s'.Matches R env ctx s) :
    ∀ hole : PredicateHole, (hole.plug s').eval env ctx = (hole.plug s).eval env ctx
  | .comparisonLeft negated op hole right => by
    have hseen := (hole.keeps h hs).seen
    simp only [PredicateHole.plug, Predicate.eval_comparison, hseen.value,
      h.compare_eq hseen.type (h.refl right.type)]
  | .comparisonRight negated op left hole => by
    have hseen := (hole.keeps h hs).seen
    simp only [PredicateHole.plug, Predicate.eval_comparison, hseen.value,
      h.compare_eq (h.refl left.type) hseen.type]
  | .betweenLeft negated hole lower upper => by
    have hseen := (hole.keeps h hs).seen
    simp only [PredicateHole.plug, Predicate.eval_between, hseen.value,
      h.compare_eq hseen.type (h.refl lower.type), h.compare_eq hseen.type (h.refl upper.type)]
  | .betweenLower negated left hole upper => by
    have hseen := (hole.keeps h hs).seen
    simp only [PredicateHole.plug, Predicate.eval_between, hseen.value,
      h.compare_eq (h.refl left.type) hseen.type]
  | .betweenUpper negated left lower hole => by
    have hseen := (hole.keeps h hs).seen
    simp only [PredicateHole.plug, Predicate.eval_between, hseen.value,
      h.compare_eq (h.refl left.type) hseen.type]
  | .inLeft negated hole items => by
    have hseen := (hole.keeps h hs).seen
    simp only [PredicateHole.plug, Predicate.eval_isIn, hseen.value, evalOneOf_left h hseen.type]
  | .inItem negated left before hole after => by
    have hseen := (hole.keeps h hs).seen
    simp only [PredicateHole.plug, Predicate.eval_isIn, evalOneOf_replace h hseen]
  | .member negated conjunction before hole after => by
    simp only [PredicateHole.plug, Predicate.eval, evalMembers_replace (hole.eval_plug h hs)]
  | .isNull negated hole => by
    simp only [PredicateHole.plug, Predicate.eval_isNull, (hole.keeps h hs).seen.value]
  | .isEmpty negated hole => by
    simp only [PredicateHole.plug, Predicate.eval_isEmpty, (hole.keeps h hs).seen.value]
  | .holds negated hole => by
    simp only [PredicateHole.plug, Predicate.eval_holds, (hole.keeps h hs).seen.value]

end

/-! ## Entry points -/

/-- An expression with the same outcome and a matching type is the same to every entry point. -/
theorem Expr.outcomes_eq (h : env.Identifies R) (model : Model) {e' e : Expr}
    (htype : R e'.type e.type) (heval : e'.eval env ctx = e.eval env ctx) :
    e'.outcomes env model ctx = e.outcomes env model ctx := by
  unfold outcomes evaluateInModelForm evaluateToKind evaluate
  simp only [heval, h.toModel_eq htype, h.convert_eq htype]

theorem ExprHole.outcomes_plug (h : env.Identifies R) (model : Model) {hole : ExprHole}
    (hproper : hole.IsProper) {s' s : Expr} (hs : s'.Matches R env ctx s) :
    (hole.plug s').outcomes env model ctx = (hole.plug s).outcomes env model ctx := by
  have hkeeps := hole.keeps h hs
  exact Expr.outcomes_eq h model hkeeps.seen.type (hkeeps.eval hproper)

/-- **Replacement.** Inside a larger expression, an expression can be replaced by any other of its
type with its value or error, in particular by its value. Where the host's rules look at no more of
a type than its name, kind and slots, neither need the type of the other. -/
theorem outcomes_replaced (env : Environment) (model : Model) (ctx : Context) (hole : ExprHole)
    (hproper : hole.IsProper) (s : Expr) :
    (∀ s' : Expr, s'.type = s.type → s'.evaluate env ctx = s.evaluate env ctx →
      (hole.plug s').outcomes env model ctx = (hole.plug s).outcomes env model ctx) ∧
    (env.host.Identifies TypeDecl.Alike → ∀ s' : Expr, s'.type.Alike s.type →
      s'.evaluate env ctx = s.evaluate env ctx →
      (hole.plug s').outcomes env model ctx = (hole.plug s).outcomes env model ctx) ∧
    ∀ v, s.evaluate env ctx = .ok v →
      (hole.plug (.scalar s.type v)).outcomes env model ctx =
        (hole.plug s).outcomes env model ctx := by
  refine ⟨fun s' htype hvalue => ?_, fun hhost s' htype hvalue => ?_, fun v hv => ?_⟩
  · exact hole.outcomes_plug (.eq env) model hproper ⟨htype, hvalue⟩
  · exact hole.outcomes_plug (.of_host hhost) model hproper ⟨htype, hvalue⟩
  · have hscalar : (Expr.scalar s.type v).evaluate env ctx = .ok v := rfl
    exact hole.outcomes_plug (.eq env) model hproper ⟨rfl, hscalar.trans hv.symm⟩

namespace Orders

/-- An instant that the model keeps in milliseconds. -/
def placed : Attribute :=
  ⟨"Order", "placed", Standard.timestamp, some .entity, some .epochMillis⟩

/-- One order, placed a second after the start of 1970. -/
def context : Context := .ofList [("order", .entity "Order" [("placed", .integer 1000)])]

def whenPlaced : Expr := .root "order" (.bare "Order" .entity) [placed]

/-- A day after an instant. -/
def nextDay : ExprHole :=
  .left Standard.timestamp .plus .here (.scalar Standard.interval (.interval (.ofDays 1)))

end Orders

open Orders in
/-- A sign takes the adapter of its operand out of effect, which a shift of the instant does not
show. -/
theorem outcomes_nextDay_signed :
    nextDay.IsProper ∧ (Expr.factor false whenPlaced).type = whenPlaced.type ∧
      (Expr.factor false whenPlaced).evaluate .utc context = whenPlaced.evaluate .utc context ∧
      (nextDay.plug (.factor false whenPlaced)).outcomes .utc Standard.model context =
        (nextDay.plug whenPlaced).outcomes .utc Standard.model context :=
  ⟨trivial, rfl, rfl,
    (outcomes_replaced .utc Standard.model context nextDay trivial whenPlaced).1
      (.factor false whenPlaced) rfl rfl⟩

namespace Priorities

/-- The place of a constant among those that a type declares. -/
def rank? (t : TypeDecl) : Value → Option Nat
  | .enumeration _ key => t.keys.findIdx? (· == key)
  | _ => none

/-- A host that compares constants by their places in the left type. -/
def byPlace : Environment where
  zone := .fixed 0
  host :=
    { Host.bare with
      compare := fun _ _ leftType _ l r op =>
        match rank? leftType l, rank? leftType r with
        | some a, some b => .ok (some (op.test (Ord.compare a b)))
        | _, _ => .error (.refuse l r) }

def priority (keys : List String) : TypeDecl :=
  { TypeDecl.bare "Priority" (.enumeration keys) with comparison := some (.host "declared") }

def rising : TypeDecl := priority ["LOW", "NORMAL"]

/-- The same constants from the last to the first. -/
def falling : TypeDecl := priority ["NORMAL", "LOW"]

def belowNormal : ExprHole :=
  .predicate Standard.boolean
    (.comparisonLeft false .lower .here
      (.scalar (.bare "Level" .basic) (.enumeration "Priority" "NORMAL")))

end Priorities

open Priorities in
/-- Name, kind and slots do not make a type: a rule that looks at the declared constants tells two
types apart that agree in these, and with them two expressions of the same value. -/
theorem belowNormal_falling_ne_rising :
    belowNormal.IsProper ∧
      (Expr.constant falling "LOW").type.Alike (Expr.constant rising "LOW").type ∧
      (Expr.constant falling "LOW").evaluate byPlace .empty =
        (Expr.constant rising "LOW").evaluate byPlace .empty ∧
      (belowNormal.plug (.constant rising "LOW")).evaluate byPlace .empty = .ok (.boolean true) ∧
      (belowNormal.plug (.constant falling "LOW")).evaluate byPlace .empty = .ok (.boolean false) :=
  ⟨trivial, ⟨rfl, rfl, rfl, rfl, rfl⟩, rfl, rfl, rfl⟩

end TypedExpr
