/-!
# Insertion-ordered dictionaries

A dictionary is a list of keys and values in the order in which the keys were first inserted.
Inserting a key again replaces its value in place; erasing a key keeps the order of the others.

It stands for a hash map that keeps the order of insertion, as such maps document `insert` (the
value of a key that is there is replaced, and the key keeps its place), lookup, `shift_remove` (the
entries behind the removed one move up) and iteration. Attributes of entities, roots of contexts and
the parts of a model are kept in one.
-/

namespace TypedExpr.Dictionary

variable {κ α : Type} [DecidableEq κ]

/-- The value under a key. -/
def get? : List (κ × α) → κ → Option α
  | [], _ => none
  | (k, v) :: rest, key => if k = key then some v else get? rest key

/-- Puts a value under a key: in place if the key is there, else at the end. -/
def insert : List (κ × α) → κ → α → List (κ × α)
  | [], key, value => [(key, value)]
  | (k, v) :: rest, key, value =>
    if k = key then (k, value) :: rest else (k, v) :: insert rest key value

/-- Removes a key. -/
def erase : List (κ × α) → κ → List (κ × α)
  | [], _ => []
  | (k, v) :: rest, key => if k = key then rest else (k, v) :: erase rest key

/-- Removes a key and hands out what was under it. -/
def extract : List (κ × α) → κ → Option α × List (κ × α)
  | [], _ => (none, [])
  | (k, v) :: rest, key =>
    if k = key then (some v, rest)
    else
      let (found, others) := extract rest key
      (found, (k, v) :: others)

/-- The dictionary that results from inserting the pairs in order. -/
def ofList (pairs : List (κ × α)) : List (κ × α) :=
  pairs.foldl (fun d p => insert d p.1 p.2) []

def keys (d : List (κ × α)) : List κ := d.map Prod.fst

def values (d : List (κ × α)) : List α := d.map Prod.snd

theorem mem_of_get? {d : List (κ × α)} {key : κ} {value : α} (h : get? d key = some value) :
    (key, value) ∈ d := by
  induction d with
  | nil => cases h
  | cons p rest ih =>
    obtain ⟨k, v⟩ := p
    unfold get? at h
    split at h
    next hk =>
      cases h
      rw [hk]
      exact List.mem_cons_self
    next => exact List.mem_cons_of_mem _ (ih h)

@[simp]
theorem get?_insert (d : List (κ × α)) (key k : κ) (value : α) :
    get? (insert d key value) k = if key = k then some value else get? d k := by
  induction d with
  | nil => simp [insert, get?]
  | cons p rest ih =>
    obtain ⟨k', v'⟩ := p
    by_cases h : k' = key
    · subst h
      by_cases hk : k' = k <;> simp [insert, get?, hk]
    · by_cases hk : k' = k
      · subst hk
        simp [insert, get?, h, Ne.symm h]
      · simp [insert, get?, h, hk, ih]

theorem keys_insert (d : List (κ × α)) (key : κ) (value : α) :
    keys (insert d key value) = if key ∈ keys d then keys d else keys d ++ [key] := by
  induction d with
  | nil => simp [insert, keys]
  | cons p rest ih =>
    obtain ⟨k', v'⟩ := p
    by_cases h : k' = key
    · simp [insert, keys, h]
    · simp only [insert, h, if_false, keys, List.map_cons, List.mem_cons, Ne.symm h, false_or] at ih ⊢
      rw [ih]
      split <;> simp_all

theorem extract_eq (d : List (κ × α)) (key : κ) : extract d key = (get? d key, erase d key) := by
  induction d with
  | nil => rfl
  | cons p rest ih =>
    obtain ⟨k, v⟩ := p
    by_cases h : k = key
    · simp only [extract, get?, erase, if_pos h]
    · simp only [extract, get?, erase, if_neg h, ih]

/-- A key that is removed leaves the others in their order. -/
theorem keys_erase {d : List (κ × α)} (h : (keys d).Nodup) (key : κ) :
    keys (erase d key) = (keys d).filter (· ≠ key) := by
  induction d with
  | nil => rfl
  | cons p rest ih =>
    obtain ⟨k, v⟩ := p
    simp only [keys, List.map_cons, List.nodup_cons] at h ih ⊢
    by_cases hk : k = key
    · subst hk
      have hrest : (rest.map Prod.fst).filter (· ≠ k) = rest.map Prod.fst :=
        List.filter_eq_self.mpr fun k' hk' => decide_eq_true fun heq => h.1 (heq ▸ hk')
      rw [erase, if_pos rfl, List.filter_cons_of_neg (by simp), hrest]
    · have hkeep : decide (k ≠ key) = true := decide_eq_true hk
      simp only [erase, if_neg hk, List.map_cons, ih h.2, List.filter_cons, hkeep, if_true]

theorem insert_of_not_mem {d : List (κ × α)} {key : κ} (h : key ∉ keys d) (value : α) :
    insert d key value = d ++ [(key, value)] := by
  induction d with
  | nil => rfl
  | cons p rest ih =>
    obtain ⟨k, v⟩ := p
    simp only [keys, List.map_cons, List.mem_cons, not_or] at h
    rw [insert, if_neg (Ne.symm h.1), ih h.2, List.cons_append]

/-- Pairs with different keys are the dictionary of themselves. -/
theorem ofList_of_nodup {d : List (κ × α)} (h : (keys d).Nodup) : ofList d = d := by
  have hfold (front rest : List (κ × α)) (hnodup : (keys (front ++ rest)).Nodup) :
      rest.foldl (fun d p => insert d p.1 p.2) front = front ++ rest := by
    induction rest generalizing front with
    | nil => rw [List.foldl_nil, List.append_nil]
    | cons p rest ih =>
      have hkeys : keys (front ++ p :: rest) = keys front ++ p.1 :: keys rest := by
        simp only [keys, List.map_append, List.map_cons]
      have hnew : p.1 ∉ keys front := by
        rw [hkeys, List.nodup_append] at hnodup
        exact fun hmem => hnodup.2.2 p.1 hmem p.1 List.mem_cons_self rfl
      have happend : front ++ [p] ++ rest = front ++ p :: rest := by
        rw [List.append_assoc, List.singleton_append]
      rw [← happend] at hnodup ⊢
      rw [List.foldl_cons, insert_of_not_mem hnew, ih (front ++ [p]) hnodup]
  exact hfold [] d h

theorem get?_of_mem {d : List (κ × α)} (h : (keys d).Nodup) {key : κ} {value : α}
    (hmem : (key, value) ∈ d) : get? d key = some value := by
  induction d with
  | nil => cases hmem
  | cons p rest ih =>
    obtain ⟨k, v⟩ := p
    simp only [keys, List.map_cons, List.nodup_cons] at h
    rcases List.mem_cons.mp hmem with heq | hmem
    · cases heq
      rw [get?, if_pos rfl]
    · have hne : k ≠ key := fun heq => h.1 (heq ▸ List.mem_map_of_mem hmem)
      rw [get?, if_neg hne, ih h.2 hmem]

theorem get?_eq_none_iff {d : List (κ × α)} {key : κ} : get? d key = none ↔ key ∉ keys d := by
  induction d with
  | nil => simp [get?, keys]
  | cons p rest ih =>
    obtain ⟨k, v⟩ := p
    by_cases h : k = key
    · simp [get?, keys, h]
    · have hcons : key ∉ keys ((k, v) :: rest) ↔ key ∉ keys rest := by
        simp [keys, Ne.symm h]
      rw [get?, if_neg h, hcons, ih]

theorem get?_erase {d : List (κ × α)} (h : (keys d).Nodup) (key k : κ) :
    get? (erase d key) k = if key = k then none else get? d k := by
  by_cases hk : key = k
  · subst hk
    rw [if_pos rfl, get?_eq_none_iff, keys_erase h, List.mem_filter]
    exact fun hmem => of_decide_eq_true hmem.2 rfl
  · rw [if_neg hk]
    -- the entry that is removed is not the one that is looked up
    clear h
    induction d with
    | nil => rfl
    | cons p rest ih =>
      obtain ⟨k', v⟩ := p
      by_cases hk' : k' = key
      · rw [erase, if_pos hk', get?, if_neg (hk' ▸ hk)]
      · rw [erase, if_neg hk', get?, get?, ih]

/-- The order of the keys makes no difference to what is under them. -/
theorem get?_of_perm {d d' : List (κ × α)} (h : d.Perm d') (hnodup : (keys d).Nodup) (key : κ) :
    get? d key = get? d' key := by
  have hkeys : (keys d).Perm (keys d') := h.map _
  cases hvalue : get? d key with
  | some value => exact (get?_of_mem (hkeys.nodup hnodup) (h.mem_iff.mp (mem_of_get? hvalue))).symm
  | none =>
    rw [get?_eq_none_iff, hkeys.mem_iff] at hvalue
    exact (get?_eq_none_iff.mpr hvalue).symm

end TypedExpr.Dictionary
