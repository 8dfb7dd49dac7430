import TypedExpr.Declaration

/-!
# Argument views

What a function sees of a call: one slot for each declared position, absent and without a type
until a value is assigned.
-/

namespace TypedExpr

/-- A position of a view: its value and the type of the expression that gave it. -/
structure Slot where
  value : Value
  type : Option TypeDecl
  deriving Repr

structure Arguments where
  slots : List Slot
  assigned : Nat
  deriving Repr

namespace Arguments

/-- The view with this many positions and nothing assigned. -/
def ofArity (arity : Nat) : Arguments := ⟨List.replicate arity ⟨.null, none⟩, 0⟩

def empty : Arguments := ofArity 0

def arity (a : Arguments) : Nat := a.slots.length

def slot (a : Arguments) (position : Nat) : Outcome Slot :=
  match a.slots[position]? with
  | some s => .ok s
  | none => .error (.indexOutOfBounds position a.arity)

/-- Assigns a position. Every assignment counts, one to an assigned position too. -/
def assign (a : Arguments) (position : Nat) (value : Value) (type : TypeDecl) :
    Outcome Arguments :=
  if position < a.arity then .ok ⟨a.slots.set position ⟨value, some type⟩, a.assigned + 1⟩
  else .error (.indexOutOfBounds position a.arity)

def value (a : Arguments) (position : Nat) : Outcome Value := (·.value) <$> a.slot position

/-- The type of the expression assigned at a position, if one was. -/
def type (a : Arguments) (position : Nat) : Outcome (Option TypeDecl) :=
  (·.type) <$> a.slot position

@[simp]
theorem arity_ofArity (n : Nat) : (ofArity n).arity = n := by
  simp [ofArity, arity]

theorem slot_ofArity {n position : Nat} (h : position < n) :
    (ofArity n).slot position = .ok ⟨.null, none⟩ := by
  simp only [slot, ofArity, List.getElem?_replicate, if_pos h]

/-- An assignment within the arity takes place, and changes the slot at its position only. -/
theorem exists_assign (a : Arguments) {position : Nat} (h : position < a.arity) (value : Value)
    (type : TypeDecl) :
    ∃ a' : Arguments, a.assign position value type = .ok a' ∧ a'.arity = a.arity ∧
      a'.assigned = a.assigned + 1 ∧
      ∀ q, a'.slot q = if q = position then .ok ⟨value, some type⟩ else a.slot q := by
  refine ⟨⟨a.slots.set position ⟨value, some type⟩, a.assigned + 1⟩, if_pos h,
    List.length_set, rfl, fun q => ?_⟩
  by_cases hq : q = position
  · rw [if_pos hq, hq]
    simp only [slot, List.getElem?_set_self h]
  · rw [if_neg hq]
    simp only [slot, arity, List.getElem?_set_ne (Ne.symm hq), List.length_set]

/-- A view is what its slots and its count are. -/
theorem ext_slot {a b : Arguments} (harity : a.arity = b.arity)
    (hassigned : a.assigned = b.assigned)
    (hslot : ∀ position < a.arity, a.slot position = b.slot position) : a = b := by
  have hslots : a.slots = b.slots := by
    apply List.ext_getElem harity
    intro i hi hi'
    have heq := hslot i hi
    simp only [slot, List.getElem?_eq_getElem hi, List.getElem?_eq_getElem hi'] at heq
    exact Except.ok.inj heq
  obtain ⟨slots, assigned⟩ := a
  simp only at hslots hassigned
  rw [hslots, hassigned]

end Arguments

end TypedExpr
