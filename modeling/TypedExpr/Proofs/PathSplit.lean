import TypedExpr.Proofs.Operands
import TypedExpr.Standard

/-!
# Splitting paths

A path may be cut into pieces: the path through the first attributes becomes the expression that a
path through the others starts from. Reading goes on from the value alone, so it makes no difference
that the adapter of the first path is not in effect behind it; and a value that is absent there makes
the rest absent, as it does in one piece.
-/

namespace TypedExpr

variable {env : Environment} {ctx : Context}

/-! ## Reading in two parts -/

theorem followPath_absent (attributes : List Attribute) :
    followPath env ctx .absent attributes = .ok .absent := by
  cases attributes <;> rfl

theorem followPath_singleton {v : Adapted} (h : ¬ v.isNull) (a : Attribute) :
    followPath env ctx v [a] = a.readFrom env ctx v.value := by
  rw [followPath, if_neg h]
  exact bind_pure _

/-- By induction on the attributes in front. -/
theorem followPath_append (v : Adapted) (front rest : List Attribute) :
    followPath env ctx v (front ++ rest) = (do
      let reached ← followPath env ctx v front
      followPath env ctx reached rest) := by
  induction front generalizing v with
  | nil => rfl
  | cons a front ih =>
    rw [List.cons_append, followPath, followPath]
    by_cases hnull : v.isNull
    · -- what is absent stays absent behind the cut
      rw [if_pos hnull, if_pos hnull]
      exact (followPath_absent rest).symm
    · rw [if_neg hnull, if_neg hnull, bind_assoc]
      exact bind_congr fun next => ih next

/-- An adapter that is in effect where a path starts is not in effect where it ends. -/
theorem followPath_plain (v : Adapted) {attributes : List Attribute} (h : attributes ≠ []) :
    followPath env ctx (.plain v.value) attributes = followPath env ctx v attributes := by
  cases attributes with
  | nil => exact absurd rfl h
  | cons a rest => rfl

theorem pathType_append (start : TypeDecl) (front rest : List Attribute) :
    pathType start (front ++ rest) = pathType (pathType start front) rest := by
  unfold pathType
  rw [List.getLast?_append]
  cases rest.getLast? <;> rfl

/-! ## Starts of paths -/

/-- What a path starts from: a root, or the value of an expression. -/
inductive PathStart where
  | root (name : String) (type : TypeDecl)
  | expression (e : Expr)

namespace PathStart

/-- The path from the start through the attributes. -/
def through : PathStart → List Attribute → Expr
  | .root name type, attributes => .root name type attributes
  | .expression e, attributes => .path e attributes

def type : PathStart → TypeDecl
  | .root _ type => type
  | .expression e => e.type

/-- The value that is read first. -/
def value (env : Environment) (ctx : Context) : PathStart → Outcome Value
  | .root name _ =>
    match ctx.root? name with
    | some v => .ok v
    | none => .error (.unboundRoot name)
  | .expression e => e.evaluate env ctx

theorem type_through (start : PathStart) (attributes : List Attribute) :
    (start.through attributes).type = pathType start.type attributes := by
  cases start <;> rfl

theorem eval_through (start : PathStart) (attributes : List Attribute) :
    (start.through attributes).eval env ctx = (do
      let v ← start.value env ctx
      followPath env ctx (.plain v) attributes) := by
  cases start with
  | root name type =>
    rw [through, Expr.eval, value]
    cases ctx.root? name <;> rfl
  | expression e => exact Expr.eval_path env ctx e attributes

theorem eval_through_append (start : PathStart) (front rest : List Attribute) :
    (start.through (front ++ rest)).eval env ctx = (do
      let reached ← (start.through front).eval env ctx
      followPath env ctx reached rest) := by
  simp only [eval_through, followPath_append, bind_assoc]

theorem type_split (start : PathStart) (front rest : List Attribute) :
    (Expr.path (start.through front) rest).type = (start.through (front ++ rest)).type := by
  rw [Expr.type, type_through, type_through, pathType_append]

theorem eval_split (start : PathStart) (front : List Attribute) {rest : List Attribute}
    (h : rest ≠ []) :
    (Expr.path (start.through front) rest).eval env ctx =
      (start.through (front ++ rest)).eval env ctx := by
  rw [Expr.eval, eval_through_append]
  exact bind_congr fun reached => followPath_plain reached h

/-! ## Any number of cuts -/

/-- The path in pieces: each starts from the value at the end of the one before. -/
def inPieces (start : PathStart) (front : List Attribute) (pieces : List (List Attribute)) : Expr :=
  pieces.foldl .path (start.through front)

/-- A path in pieces reads what the whole path reads. By induction on the pieces: what lies behind
the first cut is one path, which starts from the path in front of it. -/
theorem inPieces_whole (start : PathStart) (front : List Attribute)
    {pieces : List (List Attribute)} (h : ∀ piece ∈ pieces, piece ≠ []) :
    (start.inPieces front pieces).type = (start.through (front ++ pieces.flatten)).type ∧
      (start.inPieces front pieces).eval env ctx =
        (start.through (front ++ pieces.flatten)).eval env ctx := by
  induction pieces generalizing start front with
  | nil =>
    rw [List.flatten_nil, List.append_nil]
    exact ⟨rfl, rfl⟩
  | cons piece pieces ih =>
    rw [List.forall_mem_cons] at h
    obtain ⟨htype, heval⟩ := ih (.expression (start.through front)) piece h.2
    have hne : piece ++ pieces.flatten ≠ [] := List.append_ne_nil_of_left_ne_nil h.1 _
    rw [List.flatten_cons]
    exact ⟨htype.trans (start.type_split front _), heval.trans (start.eval_split front hne)⟩

end PathStart

/-- **Splitting.** A path from a root or an expression, followed by a path with at least one attribute
from its value, has the type of the path in one piece, and the same value with the same adapter in
effect or the same error. -/
theorem path_split (env : Environment) (ctx : Context) (start : PathStart)
    (front : List Attribute) {rest : List Attribute} (h : rest ≠ []) :
    (Expr.path (start.through front) rest).type = (start.through (front ++ rest)).type ∧
      (Expr.path (start.through front) rest).eval env ctx =
        (start.through (front ++ rest)).eval env ctx :=
  ⟨start.type_split front rest, start.eval_split front h⟩

/-- The customer of an order. -/
def customer : Attribute := ⟨"Order", "customer", .bare "Customer" .entity, some .entity, none⟩

/-- The instant at which a customer joined, kept as milliseconds. -/
def joined : Attribute :=
  ⟨"Customer", "joined", Standard.timestamp, some .entity, some .epochMillis⟩

/-- An order by a customer that joined a second after 1970 began. -/
def order : Value := .entity "Order" [("customer", .entity "Customer" [("joined", .integer 1000)])]

/-- The path behind the cut has the adapter of its own last attribute in effect. -/
theorem joined_split :
    [joined] ≠ [] ∧
      (Expr.path (PathStart.through (.root "order" (.bare "Order" .entity)) [customer])
          [joined]).eval .utc ⟨[("order", order)]⟩ =
        (PathStart.through (.root "order" (.bare "Order" .entity)) [customer, joined]).eval .utc
          ⟨[("order", order)]⟩ ∧
      Adapted.adapter <$>
          (PathStart.through (.root "order" (.bare "Order" .entity)) [customer, joined]).eval .utc
            ⟨[("order", order)]⟩ = .ok (some .epochMillis) := by
  have hne : [joined] ≠ [] := List.cons_ne_nil joined []
  exact ⟨hne, (path_split .utc ⟨[("order", order)]⟩ (.root "order" (.bare "Order" .entity))
    [customer] hne).2, rfl⟩

/-- Without attributes behind the cut the adapter in front of it is lost. -/
example :
    Adapted.adapter <$> (Expr.path (PathStart.through (.root "customer" (.bare "Customer" .entity))
      [joined]) []).eval .utc ⟨[("customer", .entity "Customer" [("joined", .integer 1000)])]⟩ =
        .ok none := rfl

end TypedExpr
