import TypedExpr.Arguments
import TypedExpr.Proofs.InsertionOrder

/-!
# Argument views and the assignments they went through

A view has the slots that it was made with: an assignment fills one of them, or is refused and
changes nothing. After any sequence of assignments a slot shows the last one at its position.

The values and the types can be kept in two columns as well. Then only the values are asked whether
a position exists; that the types have it too is an invariant of the assignments. With it the two
columns are a view, no write of a type misses its column, and a refused assignment has written
neither.
-/

namespace TypedExpr

/-- A call that assigns a position. -/
structure Assignment where
  position : Nat
  value : Value
  type : TypeDecl

/-- The last assignment at a position. -/
def lastAt (history : List Assignment) (position : Nat) : Option Assignment :=
  (history.filter (·.position = position)).getLast?

theorem lastAt_concat (history : List Assignment) (call : Assignment) (position : Nat) :
    lastAt (history ++ [call]) position =
      if call.position = position then some call else lastAt history position := by
  simp only [lastAt, getLast?_filter_concat, decide_eq_true_eq]

/-! ## Views -/

namespace Arguments

variable {a : Arguments} {n position : Nat} {history : List Assignment}

/-- The view after a call; a refused one leaves it as it is. -/
def after (a : Arguments) (call : Assignment) : Arguments :=
  match a.assign call.position call.value call.type with
  | .ok a' => a'
  | .error _ => a

/-- The view of this arity after these calls. -/
def ofHistory (n : Nat) (history : List Assignment) : Arguments :=
  history.foldl after (ofArity n)

theorem ofHistory_concat (n : Nat) (history : List Assignment) (call : Assignment) :
    ofHistory n (history ++ [call]) = (ofHistory n history).after call := by
  rw [ofHistory, List.foldl_append]
  rfl

theorem assign_of_lt {call : Assignment} (h : call.position < a.arity) :
    a.assign call.position call.value call.type = .ok (a.after call) := by
  obtain ⟨a', hassign, -⟩ := a.exists_assign h call.value call.type
  rw [after, hassign]

theorem assign_of_le (h : a.arity ≤ position) (v : Value) (t : TypeDecl) :
    a.assign position v t = .error (.indexOutOfBounds position a.arity) :=
  if_neg (Nat.not_lt.mpr h)

theorem after_of_le {call : Assignment} (h : a.arity ≤ call.position) : a.after call = a := by
  rw [after, assign_of_le h]

theorem slot_of_le (h : a.arity ≤ position) :
    a.slot position = .error (.indexOutOfBounds position a.arity) := by
  rw [slot, List.getElem?_eq_none h]

theorem value_of_le (h : a.arity ≤ position) :
    a.value position = .error (.indexOutOfBounds position a.arity) := by
  rw [value, slot_of_le h]
  rfl

theorem type_of_le (h : a.arity ≤ position) :
    a.type position = .error (.indexOutOfBounds position a.arity) := by
  rw [type, slot_of_le h]
  rfl

/-- The slot of a position whose last assignment is this one, if it was assigned. -/
def slotOf (last : Option Assignment) : Slot :=
  ⟨(last.map (·.value)).getD .null, last.map (·.type)⟩

/-- What a view shows of its history. -/
structure Shows (a : Arguments) (n : Nat) (history : List Assignment) : Prop where
  arity_eq : a.arity = n
  slot_eq : ∀ position < n, a.slot position = .ok (slotOf (lastAt history position))

namespace Shows

theorem nil (n : Nat) : (ofArity n).Shows n [] where
  arity_eq := arity_ofArity n
  slot_eq _ h := slot_ofArity h

theorem after (h : a.Shows n history) (call : Assignment) :
    (a.after call).Shows n (history ++ [call]) := by
  by_cases hcall : call.position < a.arity
  · obtain ⟨a', hassign, harity, -, hslot⟩ := a.exists_assign hcall call.value call.type
    have hafter : a.after call = a' := by rw [Arguments.after, hassign]
    rw [hafter]
    refine ⟨harity.trans h.arity_eq, fun position hposition => ?_⟩
    -- the slot that was written shows this call, and the others show what they showed
    rw [hslot, lastAt_concat]
    by_cases hp : position = call.position
    · rw [if_pos hp, if_pos hp.symm]
      rfl
    · rw [if_neg hp, if_neg (Ne.symm hp), h.slot_eq position hposition]
  · rw [Nat.not_lt] at hcall
    rw [after_of_le hcall]
    refine ⟨h.arity_eq, fun position hposition => ?_⟩
    -- a refused call is the last one at no position of the view
    have hp : call.position ≠ position := by
      rw [h.arity_eq] at hcall
      omega
    rw [lastAt_concat, if_neg hp, h.slot_eq position hposition]

theorem value_eq (h : a.Shows n history) (hlt : position < n) :
    a.value position = .ok (((lastAt history position).map (·.value)).getD .null) := by
  rw [value, h.slot_eq position hlt]
  rfl

theorem type_eq (h : a.Shows n history) (hlt : position < n) :
    a.type position = .ok ((lastAt history position).map (·.type)) := by
  rw [type, h.slot_eq position hlt]
  rfl

end Shows

theorem ofHistory_shows (n : Nat) (history : List Assignment) :
    (ofHistory n history).Shows n history := by
  induction history using List.reverseRecOn with
  | nil => exact .nil n
  | append_singleton history call ih =>
    rw [ofHistory_concat]
    exact ih.after call

end Arguments

/-! ## Columns -/

/-- Why a call fails that works on columns: it is refused, or writes where nothing is. -/
inductive Fault where
  | refused (e : EvalError)
  | outside (position : Nat)

/-- The values and the types of a view, apart from each other. -/
structure Columns where
  values : List Value
  types : List (Option TypeDecl)
  assigned : Nat

namespace Columns

def ofArity (n : Nat) : Columns := ⟨List.replicate n .null, List.replicate n none, 0⟩

/-- Writes a value, if there is one at the position. -/
def writeValue (position : Nat) (v : Value) : EStateM Fault Columns Unit := fun c =>
  if position < c.values.length then .ok () { c with values := c.values.set position v }
  else .error (.refused (.indexOutOfBounds position c.values.length)) c

/-- Writes a type, where there has to be one. -/
def writeType (position : Nat) (t : TypeDecl) : EStateM Fault Columns Unit := fun c =>
  if position < c.types.length then .ok () { c with types := c.types.set position (some t) }
  else .error (.outside position) c

/-- Assigns a position. Whether it exists is asked of the values only. -/
def assign (position : Nat) (v : Value) (t : TypeDecl) : EStateM Fault Columns Unit := do
  writeValue position v
  -- a value that is written stays written if this fails
  writeType position t
  modify fun c => { c with assigned := c.assigned + 1 }

def value (c : Columns) (position : Nat) : Outcome Value :=
  match c.values[position]? with
  | some v => .ok v
  | none => .error (.indexOutOfBounds position c.values.length)

def type (c : Columns) (position : Nat) : Outcome (Option TypeDecl) :=
  match c.types[position]? with
  | some t => .ok t
  | none => .error (.indexOutOfBounds position c.values.length)

/-- The columns after a call, as it leaves them, whether it succeeds or not. -/
def after (c : Columns) (call : Assignment) : Columns :=
  match (assign call.position call.value call.type).run c with
  | .ok _ c' => c'
  | .error _ c' => c'

def ofHistory (n : Nat) (history : List Assignment) : Columns := history.foldl after (ofArity n)

theorem ofHistory_concat (n : Nat) (history : List Assignment) (call : Assignment) :
    ofHistory n (history ++ [call]) = (ofHistory n history).after call := by
  rw [ofHistory, List.foldl_append]
  rfl

/-- Columns of different lengths would not do: the value is written when the type is missed. -/
example (v : Value) (t : TypeDecl) :
    (assign 0 v t).run ⟨[.null], [], 0⟩ = .error (.outside 0) ⟨[v], [], 0⟩ := rfl

section

variable {c : Columns} {position : Nat} (v : Value) (t : TypeDecl)

theorem assign_run_of_lt (h : position < c.values.length) (htypes : position < c.types.length) :
    (assign position v t).run c =
      .ok () ⟨c.values.set position v, c.types.set position (some t), c.assigned + 1⟩ := by
  have hvalue : writeValue position v c = .ok () { c with values := c.values.set position v } :=
    if_pos h
  have htype : writeType position t { c with values := c.values.set position v } =
      .ok () ⟨c.values.set position v, c.types.set position (some t), c.assigned⟩ :=
    if_pos htypes
  simp only [assign, EStateM.run, bind, EStateM.bind, hvalue, htype]
  rfl

theorem assign_run_of_le (h : c.values.length ≤ position) :
    (assign position v t).run c =
      .error (.refused (.indexOutOfBounds position c.values.length)) c := by
  have hvalue : writeValue position v c =
      .error (.refused (.indexOutOfBounds position c.values.length)) c :=
    if_neg (Nat.not_lt.mpr h)
  simp only [assign, EStateM.run, bind, EStateM.bind, hvalue]

end

end Columns

/-! ## Columns of a view -/

namespace Arguments

/-- The columns of a view: as many values as types. -/
def columns (a : Arguments) : Columns :=
  ⟨a.slots.map (·.value), a.slots.map (·.type), a.assigned⟩

theorem length_values (a : Arguments) : a.columns.values.length = a.arity := List.length_map _

theorem length_types (a : Arguments) : a.columns.types.length = a.arity := List.length_map _

theorem columns_ofArity (n : Nat) : (ofArity n).columns = .ofArity n := by
  simp only [columns, ofArity, Columns.ofArity, List.map_replicate]

theorem value_columns (a : Arguments) (position : Nat) :
    a.columns.value position = a.value position := by
  simp only [Columns.value, value, slot, length_values]
  simp only [columns, List.getElem?_map]
  cases a.slots[position]? <;> rfl

theorem type_columns (a : Arguments) (position : Nat) :
    a.columns.type position = a.type position := by
  simp only [Columns.type, type, slot, length_values]
  simp only [columns, List.getElem?_map]
  cases a.slots[position]? <;> rfl

/-- A call on the columns of a view succeeds as it does on the view, or is refused as it is there
with the columns as they were. -/
theorem assign_columns (a : Arguments) (call : Assignment) :
    (Columns.assign call.position call.value call.type).run a.columns =
      if call.position < a.arity then .ok () (a.after call).columns
      else .error (.refused (.indexOutOfBounds call.position a.arity)) a.columns := by
  by_cases h : call.position < a.arity
  · -- the check of the values is one of the types too, since a slot has both
    have hvalues : call.position < a.columns.values.length := a.length_values ▸ h
    have htypes : call.position < a.columns.types.length := a.length_types ▸ h
    have hafter : a.after call =
        ⟨a.slots.set call.position ⟨call.value, some call.type⟩, a.assigned + 1⟩ := by
      rw [after, assign, if_pos h]
    rw [if_pos h, Columns.assign_run_of_lt _ _ hvalues htypes, hafter]
    simp only [columns, List.map_set]
  · have hvalues : a.columns.values.length ≤ call.position :=
      a.length_values ▸ Nat.not_lt.mp h
    rw [if_neg h, Columns.assign_run_of_le _ _ hvalues, length_values]

theorem after_columns (a : Arguments) (call : Assignment) :
    a.columns.after call = (a.after call).columns := by
  rw [Columns.after, assign_columns]
  by_cases h : call.position < a.arity
  · rw [if_pos h]
  · rw [if_neg h, after_of_le (Nat.not_lt.mp h)]

/-- Columns go through a history as the view does. -/
theorem ofHistory_columns (n : Nat) (history : List Assignment) :
    Columns.ofHistory n history = (ofHistory n history).columns := by
  induction history using List.reverseRecOn with
  | nil => exact (columns_ofArity n).symm
  | append_singleton history call ih =>
    rw [Columns.ofHistory_concat, ofHistory_concat, ih, after_columns]

end Arguments

/-! ## Both -/

/-- **Whole or not at all.** A view keeps its size. Whatever was assigned before, an assignment
succeeds exactly at a position within the arity, and is refused with everything as it was at any
other; value and type at a position are those of the last assignment there. Two columns with a
single check behave the same: they keep one length, so no assignment writes outside of them. -/
theorem assignments_whole_or_refused (n : Nat) (history : List Assignment) (call : Assignment) :
    let view := Arguments.ofHistory n history
    let columns := Columns.ofHistory n history
    let position := call.position
    let outOfBounds := EvalError.indexOutOfBounds position n
    view.arity = n ∧
      (if position < n then
        view.assign position call.value call.type =
            .ok (Arguments.ofHistory n (history ++ [call])) ∧
          view.value position = .ok (((lastAt history position).map (·.value)).getD .null) ∧
          view.type position = .ok ((lastAt history position).map (·.type))
      else
        view.assign position call.value call.type = .error outOfBounds ∧
          Arguments.ofHistory n (history ++ [call]) = view ∧
          view.value position = .error outOfBounds ∧ view.type position = .error outOfBounds) ∧
      columns.values.length = n ∧ columns.types.length = n ∧
      columns.value position = view.value position ∧
      columns.type position = view.type position ∧
      (Columns.assign position call.value call.type).run columns =
        if position < n then .ok () (Columns.ofHistory n (history ++ [call]))
        else .error (.refused outOfBounds) columns := by
  intro view columns position outOfBounds
  have hshows : view.Shows n history := Arguments.ofHistory_shows n history
  have harity : view.arity = n := hshows.arity_eq
  have hcolumns : columns = view.columns := Arguments.ofHistory_columns n history
  have hafter : Arguments.ofHistory n (history ++ [call]) = view.after call :=
    Arguments.ofHistory_concat n history call
  refine ⟨harity, ?_, ?_, ?_, ?_, ?_, ?_⟩
  · rw [hafter]
    split
    next h =>
      exact ⟨Arguments.assign_of_lt (harity.symm ▸ h), hshows.value_eq h, hshows.type_eq h⟩
    next h =>
      have hle : view.arity ≤ position := harity ▸ Nat.not_lt.mp h
      have herror : EvalError.indexOutOfBounds position view.arity = outOfBounds := by rw [harity]
      rw [Arguments.assign_of_le hle, Arguments.value_of_le hle, Arguments.type_of_le hle, herror]
      exact ⟨rfl, Arguments.after_of_le hle, rfl, rfl⟩
  · rw [hcolumns, Arguments.length_values, harity]
  · rw [hcolumns, Arguments.length_types, harity]
  · rw [hcolumns, Arguments.value_columns]
  · rw [hcolumns, Arguments.type_columns]
  · rw [Arguments.ofHistory_columns, hafter, hcolumns, Arguments.assign_columns, harity]

end TypedExpr
