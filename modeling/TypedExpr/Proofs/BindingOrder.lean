import Mathlib.Data.List.Basic
import TypedExpr.Context
import TypedExpr.Proofs.InsertionOrder

/-!
# Contexts and entities in the order of their bindings

A context goes through bindings and removals, an entity through settings of its attributes. Of the
bindings of a history those count that no later call removes: a name has the value of the last of
them, and stands where the first of them put it. A removal takes the bindings of its root out of the
history without moving the others, which is what it does to the roots of the context too.
-/

namespace TypedExpr

namespace Dictionary

variable {κ α : Type} [DecidableEq κ]

/-- The value that was bound last under a key. -/
def lastUnder (bindings : List (κ × α)) (key : κ) : Option α :=
  (bindings.filter (·.1 = key)).getLast?.map Prod.snd

/-- A dictionary has these bindings in their order. -/
structure Orders (d bindings : List (κ × α)) : Prop where
  /-- A key has the value that was bound to it last. -/
  get?_eq : ∀ key, get? d key = lastUnder bindings key
  /-- The keys are in the order in which they were bound first. -/
  keys_eq : keys d = (bindings.map Prod.fst).eraseDups
  nodup : (keys d).Nodup
  /-- The keys are those that have a value. -/
  mem_keys : ∀ key, key ∈ keys d ↔ (get? d key).isSome
  /-- An iteration meets each key with its value. -/
  entries_eq : d = (keys d).filterMap fun key => (get? d key).map (key, ·)
  /-- A key that is bound again keeps its place, and a new one goes to the end. -/
  keys_insert : ∀ key value,
    keys (insert d key value) = if (get? d key).isSome then keys d else keys d ++ [key]

theorem mem_keys_iff {d : List (κ × α)} {key : κ} : key ∈ keys d ↔ (get? d key).isSome := by
  rw [Option.isSome_iff_ne_none, Ne, get?_eq_none_iff, not_not]

/-- A dictionary whose keys are different is what its lookups say, in the order of its keys. -/
theorem eq_filterMap_keys {d : List (κ × α)} (h : (keys d).Nodup) :
    d = (keys d).filterMap fun key => (get? d key).map (key, ·) := by
  have hentry (p : κ × α) (hp : p ∈ d) : some p = (get? d p.1).map (p.1, ·) := by
    rw [get?_of_mem h hp]
    rfl
  calc d
    _ = d.filterMap some := List.filterMap_some.symm
    _ = d.filterMap fun p => (get? d p.1).map (p.1, ·) := List.filterMap_congr hentry
    _ = (keys d).filterMap fun key => (get? d key).map (key, ·) := by
      rw [keys, List.filterMap_map]
      rfl

theorem Keeps.orders {d bindings : List (κ × α)} (h : Keeps d Prod.fst Prod.snd bindings) :
    Orders d bindings where
  get?_eq := h.get?_eq
  keys_eq := h.keys_eq
  nodup := h.nodup_keys
  mem_keys _ := mem_keys_iff
  entries_eq := eq_filterMap_keys h.nodup_keys
  keys_insert key value := by simp only [Dictionary.keys_insert, mem_keys_iff]

end Dictionary

open Dictionary

/-! ## Histories of contexts -/

namespace Context

/-- A call that changes a context. -/
inductive Change where
  | bind (root : String) (v : Value)
  | remove (root : String)

def Change.removes (root : String) : Change → Bool
  | .bind .. => false
  | .remove r => r = root

def change (c : Context) : Change → Context
  | .bind root v => c.bind root v
  | .remove root => (c.remove root).2

/-- The context that a new one has become after these calls. -/
def ofHistory (history : List Change) : Context := history.foldl change empty

/-- The bindings whose root no later call removes, in the order of the calls. -/
def standing : List Change → List (String × Value)
  | [] => []
  | .bind root v :: later =>
    if later.any (·.removes root) then standing later else (root, v) :: standing later
  | .remove _ :: later => standing later

theorem ofHistory_concat (history : List Change) (call : Change) :
    ofHistory (history ++ [call]) = (ofHistory history).change call :=
  List.foldl_concat ..

theorem standing_concat_bind (history : List Change) (root : String) (v : Value) :
    standing (history ++ [.bind root v]) = standing history ++ [(root, v)] := by
  induction history with
  | nil => rfl
  | cons call later ih =>
    cases call with
    | remove r => exact ih
    | bind r w =>
      have hany : (later ++ [Change.bind root v]).any (·.removes r) = later.any (·.removes r) := by
        rw [List.any_append, List.any_cons, List.any_nil, Change.removes, Bool.or_false,
          Bool.or_false]
      rw [List.cons_append, standing, standing, hany, ih]
      split <;> rfl

/-- A removal leaves the bindings of the other roots standing, and those only. -/
theorem standing_concat_remove (history : List Change) (root : String) :
    standing (history ++ [.remove root]) = (standing history).filter (·.1 ≠ root) := by
  induction history with
  | nil => rfl
  | cons call later ih =>
    cases call with
    | remove r => exact ih
    | bind r w =>
      have hany : (later ++ [Change.remove root]).any (·.removes r) =
          (later.any (·.removes r) || decide (root = r)) := by
        rw [List.any_append, List.any_cons, List.any_nil, Change.removes, Bool.or_false]
      rw [List.cons_append, standing, standing, hany, ih]
      by_cases hremoved : later.any (·.removes r) = true
      · -- this binding did not stand before
        rw [hremoved, Bool.true_or, if_pos rfl, if_pos rfl]
      · -- it stood, and stands on unless it is the root that goes
        have hr : decide ((r, w).1 ≠ root) = !decide (root = r) := by
          simp only [ne_eq, decide_not, eq_comm]
        rw [Bool.not_eq_true] at hremoved
        rw [hremoved, Bool.false_or, if_neg Bool.false_ne_true, List.filter_cons, hr]
        cases decide (root = r) <;> rfl

theorem ofHistory_keeps (history : List Change) :
    Keeps (ofHistory history).roots Prod.fst Prod.snd (standing history) := by
  -- each call does to the roots of the context what it does to the standing bindings
  induction history using List.reverseRecOn with
  | nil => exact .nil
  | append_singleton history call ih =>
    rw [ofHistory_concat]
    cases call with
    | bind root v =>
      rw [standing_concat_bind]
      exact ih.insert (root, v)
    | remove root =>
      rw [standing_concat_remove, change, remove_eq]
      exact ih.erase root

/-- A root that is bound again after a removal comes last, and one bound to nothing is bound. -/
example : keys (ofHistory [.bind "a" (.integer 1), .bind "b" .null, .remove "a",
    .bind "c" .null, .bind "b" (.integer 2), .bind "a" .null]).roots = ["b", "c", "a"] := by
  decide

end Context

open Context

/-! ## Entities -/

theorem Entity.ofList_keeps (typeName : String) (settings : List (String × Value)) :
    (Entity.ofList typeName settings).typeName = typeName ∧
      Keeps (Entity.ofList typeName settings).attributes Prod.fst Prod.snd settings := by
  induction settings using List.reverseRecOn with
  | nil => exact ⟨rfl, .nil⟩
  | append_singleton settings p ih =>
    rw [Entity.ofList, List.foldl_concat]
    exact ⟨ih.1, ih.2.insert p⟩

namespace Value

theorem attributeTexts_eq_map (attributes : List (String × Value)) :
    attributeTexts attributes = attributes.map fun (name, v) => " " ++ name ++ ": " ++ v.text := by
  induction attributes with
  | nil => rw [attributeTexts, List.map_nil]
  | cons p rest ih => rw [attributeTexts, ih, List.map_cons]

/-- An entity shows its attributes in the order of their names, each with its value. -/
theorem text_entity {attributes : List (String × Value)} (h : (keys attributes).Nodup)
    (typeName : String) :
    (entity typeName attributes).text =
      entityText typeName ((keys attributes).filterMap fun name =>
        (get? attributes name).map fun v => " " ++ name ++ ": " ++ v.text) := by
  have htexts : attributeTexts attributes = (keys attributes).filterMap fun name =>
      (get? attributes name).map fun v => " " ++ name ++ ": " ++ v.text := by
    conv_lhs => rw [attributeTexts_eq_map, eq_filterMap_keys h]
    simp only [List.map_filterMap, Option.map_map, Function.comp_def]
  rw [text, htexts]

end Value

/-! ## Both -/

/-- **Insertion order.** After any history of bindings and removals the roots of a context are the
standing bindings in their order; removing a root gives its value, if it is bound, and leaves the
others in their order, and a root that is bound again after that is the last. After any sequence of
settings the attributes of an entity are in their order as well, each with the value that was set
last, and its text shows them in that order. -/
theorem roots_and_attributes_ordered (history : List Change) (root : String) (v : Value)
    (typeName : String) (settings : List (String × Value)) :
    let c := Context.ofHistory history
    let e := Entity.ofList typeName settings
    (Orders c.roots (standing history) ∧
      c.root? root = lastUnder (standing history) root ∧
      (c.remove root).1 = lastUnder (standing history) root ∧
      keys (c.remove root).2.roots = (keys c.roots).filter (· ≠ root) ∧
      keys ((c.remove root).2.bind root v).roots = (keys c.roots).filter (· ≠ root) ++ [root]) ∧
    Orders e.attributes settings ∧
      (∀ name, e.get? name = lastUnder settings name) ∧
      (∀ name w, keys (e.set name w).attributes =
        if (e.get? name).isSome then keys e.attributes else keys e.attributes ++ [name]) ∧
      e.text =
        Value.entityText typeName ((keys e.attributes).filterMap fun name =>
          (lastUnder settings name).map fun w => " " ++ name ++ ": " ++ w.text) := by
  intro c e
  have hroots : Orders c.roots (standing history) := (ofHistory_keeps history).orders
  obtain ⟨htype, hkeeps⟩ := Entity.ofList_keeps typeName settings
  have hattributes : Orders e.attributes settings := hkeeps.orders
  have hfound : c.root? root = lastUnder (standing history) root := hroots.get?_eq root
  have hremoved : keys (c.remove root).2.roots = (keys c.roots).filter (· ≠ root) := by
    rw [remove_eq]
    exact keys_erase hroots.nodup root
  have hagain : keys ((c.remove root).2.bind root v).roots =
      (keys c.roots).filter (· ≠ root) ++ [root] := by
    -- the root that was removed is a new one
    have hnew : root ∉ (keys c.roots).filter (· ≠ root) := fun hmem =>
      of_decide_eq_true (List.mem_filter.mp hmem).2 rfl
    rw [Context.bind, keys_insert, hremoved, if_neg hnew]
  refine ⟨⟨hroots, hfound, ?_, hremoved, hagain⟩, hattributes, hattributes.get?_eq,
    hattributes.keys_insert, ?_⟩
  · rw [remove_eq, hfound]
  · rw [Entity.text, Entity.toValue, Value.text_entity hattributes.nodup, htype]
    simp only [hattributes.get?_eq]

end TypedExpr
