import TypedExpr.Value

/-!
# Contexts

A context binds root names to the values that paths start from. A root may be bound to the absent
value; that is a binding too.
-/

namespace TypedExpr

structure Context where
  roots : List (String × Value)
  deriving Repr

namespace Context

def empty : Context := ⟨[]⟩

/-- Binds a root; a root that is bound already keeps its place. -/
def bind (c : Context) (root : String) (v : Value) : Context :=
  ⟨Dictionary.insert c.roots root v⟩

def unbind (c : Context) (root : String) : Context := ⟨Dictionary.erase c.roots root⟩

def root? (c : Context) (root : String) : Option Value := Dictionary.get? c.roots root

/-- Removes a root's binding and hands out the value it was bound to. -/
def remove (c : Context) (root : String) : Option Value × Context :=
  let (found, roots) := Dictionary.extract c.roots root
  (found, ⟨roots⟩)

/-- The context that binds the pairs in order. -/
def ofList (pairs : List (String × Value)) : Context := ⟨Dictionary.ofList pairs⟩

@[simp]
theorem root?_bind (c : Context) (root r : String) (v : Value) :
    (c.bind root v).root? r = if root = r then some v else c.root? r := by
  simp [bind, root?]

theorem remove_eq (c : Context) (root : String) :
    c.remove root = (c.root? root, c.unbind root) := by
  rw [remove, Dictionary.extract_eq]
  rfl

end Context

end TypedExpr
