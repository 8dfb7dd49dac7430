import Mathlib.Data.List.Induction
import TypedExpr.Dictionary

/-!
# Dictionaries and the insertions they went through

A dictionary keeps of its insertions what a reader of their log would: under each key the value
inserted last, and the keys in the order in which they were inserted first. An insertion adds to both
what it adds to the log, so that every sequence of insertions is kept that way.
-/

namespace TypedExpr

section FirstOccurrences

variable {α β : Type} [DecidableEq α] [DecidableEq β]

theorem eraseDups_concat (l : List α) (a : α) :
    (l ++ [a]).eraseDups = if a ∈ l then l.eraseDups else l.eraseDups ++ [a] := by
  rw [List.eraseDups_append]
  by_cases h : a ∈ l
  · have hnone : [a].removeAll l = [] := by simp [List.removeAll, h]
    rw [if_pos h, hnone, List.eraseDups_nil, List.append_nil]
  · have hall : [a].removeAll l = [a] := by simp [List.removeAll, h]
    rw [if_neg h, hall]
    rfl

theorem nodup_eraseDups (l : List α) : l.eraseDups.Nodup := by
  induction l using List.reverseRecOn with
  | nil => exact List.nodup_nil
  | append_singleton l a ih =>
    rw [eraseDups_concat]
    split
    next => exact ih
    next h =>
      rw [List.nodup_append]
      refine ⟨ih, List.pairwise_singleton _ a, fun b hb c hc heq => h ?_⟩
      rw [← List.mem_singleton.mp hc, ← heq]
      exact List.mem_eraseDups.mp hb

theorem filter_eraseDups (l : List α) (p : α → Bool) :
    l.eraseDups.filter p = (l.filter p).eraseDups := by
  induction l using List.reverseRecOn with
  | nil => rfl
  | append_singleton l a ih =>
    by_cases hp : p a = true
    · -- what passes occurs among the rest that passes if it occurs among the rest at all
      have hmem : a ∈ l.filter p ↔ a ∈ l := by rw [List.mem_filter, and_iff_left hp]
      have hkeep (xs : List α) : (xs ++ [a]).filter p = xs.filter p ++ [a] := by
        rw [List.filter_append, List.filter_cons_of_pos hp, List.filter_nil]
      rw [hkeep, eraseDups_concat, eraseDups_concat, ← ih]
      by_cases h : a ∈ l
      · rw [if_pos h, if_pos (hmem.mpr h)]
      · rw [if_neg h, if_neg (mt hmem.mp h), hkeep]
    · have hdrop (xs : List α) : (xs ++ [a]).filter p = xs.filter p := by
        rw [List.filter_append, List.filter_cons_of_neg hp, List.filter_nil, List.append_nil]
      rw [hdrop, eraseDups_concat, ← ih]
      by_cases h : a ∈ l
      · rw [if_pos h]
      · rw [if_neg h, hdrop]

theorem eraseDups_map {f : α → β} (hf : ∀ a b, f a = f b → a = b) (l : List α) :
    (l.map f).eraseDups = l.eraseDups.map f := by
  induction l using List.reverseRecOn with
  | nil => rfl
  | append_singleton l a ih =>
    have hmem : f a ∈ l.map f ↔ a ∈ l := by
      constructor
      · intro h
        obtain ⟨b, hb, heq⟩ := List.mem_map.mp h
        rw [← hf b a heq]
        exact hb
      · exact List.mem_map_of_mem
    rw [List.map_append, List.map_singleton, eraseDups_concat, eraseDups_concat, ih]
    by_cases h : a ∈ l
    · rw [if_pos h, if_pos (hmem.mpr h)]
    · rw [if_neg h, if_neg (mt hmem.mp h), List.map_append, List.map_singleton]

end FirstOccurrences

/-- The last element of a kind in a log that goes on. -/
theorem getLast?_filter_concat {α : Type} (p : α → Bool) (l : List α) (a : α) :
    ((l ++ [a]).filter p).getLast? = if p a then some a else (l.filter p).getLast? := by
  rw [List.filter_append]
  by_cases h : p a = true
  · rw [if_pos h, List.filter_cons_of_pos h, List.filter_nil, List.getLast?_concat]
  · rw [if_neg h, List.filter_cons_of_neg h, List.filter_nil, List.append_nil]

namespace Dictionary

variable {κ α β : Type} [DecidableEq κ]

/-- What a dictionary keeps of the things that were added to it, one after the other, each with its
key and value. -/
structure Keeps (d : List (κ × α)) (key : β → κ) (value : β → α) (added : List β) : Prop where
  keys_eq : keys d = (added.map key).eraseDups
  get?_eq : ∀ k, get? d k = (added.filter (key · = k)).getLast?.map value

namespace Keeps

variable {d : List (κ × α)} {key : β → κ} {value : β → α} {added : List β}

theorem nil : Keeps ([] : List (κ × α)) key value [] := ⟨rfl, fun _ => rfl⟩

theorem nodup_keys (h : Keeps d key value added) : (keys d).Nodup := by
  rw [h.keys_eq]
  exact nodup_eraseDups _

/-- One more insertion: a new key goes to the end, and a known one keeps its place. -/
theorem insert (h : Keeps d key value added) (b : β) :
    Keeps (Dictionary.insert d (key b) (value b)) key value (added ++ [b]) where
  keys_eq := by
    -- a key is there already exactly if something was added under it before
    rw [keys_insert, List.map_append, List.map_singleton, eraseDups_concat, h.keys_eq]
    simp only [List.mem_eraseDups]
  get?_eq k := by
    rw [get?_insert, getLast?_filter_concat, h.get?_eq]
    by_cases hk : key b = k
    · rw [if_pos hk, if_pos (decide_eq_true hk)]
      rfl
    · rw [if_neg hk, if_neg (mt of_decide_eq_true hk)]

/-- What was under a key is gone with it, as if it had never been added. -/
theorem erase (h : Keeps d key value added) (k : κ) :
    Keeps (Dictionary.erase d k) key value (added.filter (key · ≠ k)) where
  keys_eq := by
    have hmap : (added.filter (key · ≠ k)).map key = (added.map key).filter (· ≠ k) := by
      rw [List.filter_map]
      rfl
    rw [keys_erase h.nodup_keys, h.keys_eq, filter_eraseDups, hmap]
  get?_eq k' := by
    rw [get?_erase h.nodup_keys, List.filter_filter]
    by_cases hk : k = k'
    · subst hk
      have hnone : added.filter (fun b => decide (key b = k) && decide (key b ≠ k)) = [] := by
        rw [List.filter_eq_nil_iff]
        intro b _ hb
        simp only [ne_eq, decide_not, Bool.and_not_self, Bool.false_eq_true] at hb
      rw [if_pos rfl, hnone]
      rfl
    · have hsame : added.filter (fun b => decide (key b = k') && decide (key b ≠ k)) =
          added.filter (key · = k') := by
        refine List.filter_congr fun b _ => ?_
        by_cases hb : key b = k'
        · have hne : key b ≠ k := fun heq => hk (heq.symm.trans hb)
          rw [decide_eq_true hb, decide_eq_true hne, Bool.true_and]
        · rw [decide_eq_false hb, Bool.false_and]
      rw [if_neg hk, hsame, h.get?_eq]

/-- One more entry of a log, only some of whose entries are insertions into this dictionary. -/
theorem insert_of_log {ρ : Type} {log : List ρ} {of? : ρ → Option β}
    (h : Keeps d key value (log.filterMap of?)) (r : ρ) :
    Keeps ((of? r).elim d fun b => Dictionary.insert d (key b) (value b)) key value
      ((log ++ [r]).filterMap of?) := by
  rw [List.filterMap_append]
  cases hr : of? r with
  | none =>
    rw [List.filterMap_cons_none hr, List.filterMap_nil, List.append_nil]
    exact h
  | some b =>
    rw [List.filterMap_cons_some hr, List.filterMap_nil]
    exact h.insert b

/-- A list of values has one for each key that was added, in the order of the first additions. -/
theorem values_filter (h : Keeps d key value added) (p : κ → Bool) :
    (values (d.filter (p ·.1))).map some =
      ((added.map key).filter p).eraseDups.map (get? d) := by
  have hvalue (e : κ × α) (he : e ∈ d.filter (p ·.1)) : some e.2 = get? d e.1 :=
    (get?_of_mem h.nodup_keys (List.mem_filter.mp he).1).symm
  calc (values (d.filter (p ·.1))).map some
    _ = (d.filter (p ·.1)).map (fun e => get? d e.1) := by
      rw [values, List.map_map]
      exact List.map_congr_left hvalue
    _ = ((keys d).filter p).map (get? d) := by
      rw [keys, List.filter_map, List.map_map]
      rfl
    _ = ((added.map key).filter p).eraseDups.map (get? d) := by
      rw [h.keys_eq, filter_eraseDups]

theorem values_eq (h : Keeps d key value added) :
    (values d).map some = (added.map key).eraseDups.map (get? d) := by
  have hall := h.values_filter fun _ => true
  have hentries : d.filter (fun _ => true) = d := List.filter_eq_self.mpr fun _ _ => rfl
  have hkeys : (added.map key).filter (fun _ => true) = added.map key :=
    List.filter_eq_self.mpr fun _ _ => rfl
  rw [hentries, hkeys] at hall
  exact hall

end Keeps

end Dictionary

end TypedExpr
