import Mathlib.Data.Finset.Card
import TypedExpr.Proofs.ArgumentBinding
import TypedExpr.Proofs.ArgumentHistory
import TypedExpr.Proofs.Outcome

/-!
# Counts of assignments and of arguments

A view counts the assignments that it accepts, and shows an argument at each position that they went
to. The two numbers agree exactly if no position was assigned twice: a later assignment at a position
takes the place of the one before it, and counts all the same. In a call every binding is an
assignment, so that the count its function sees is the number of its bindings.
-/

namespace TypedExpr

/-- The positions of the assignments within an arity, one after the other. -/
def acceptedPositions (n : Nat) (history : List Assignment) : List Nat :=
  (history.map (·.position)).filter (· < n)

theorem acceptedPositions_concat (n : Nat) (history : List Assignment) (call : Assignment) :
    acceptedPositions n (history ++ [call]) =
      if call.position < n then acceptedPositions n history ++ [call.position]
      else acceptedPositions n history := by
  simp only [acceptedPositions, List.map_append, List.map_singleton, List.filter_append]
  by_cases h : call.position < n
  · have hkeep : [call.position].filter (· < n) = [call.position] :=
      List.filter_cons_of_pos (decide_eq_true h)
    rw [if_pos h, hkeep]
  · have hdrop : [call.position].filter (· < n) = [] :=
      List.filter_cons_of_neg (mt of_decide_eq_true h)
    rw [if_neg h, hdrop, List.append_nil]

namespace Arguments

variable {a a' : Arguments} {n position : Nat} {positions : List Nat}

/-- Whether a type is shown at a position, as it is for every argument, an absent one too. -/
def isSupplied (a : Arguments) (position : Nat) : Bool :=
  match a.type position with
  | .ok type => type.isSome
  | .error _ => false

/-- The positions at which an argument is shown. -/
def supplied (a : Arguments) : Finset Nat := (Finset.range a.arity).filter (a.isSupplied ·)

theorem mem_supplied : position ∈ a.supplied ↔ position < a.arity ∧ a.isSupplied position := by
  rw [supplied, Finset.mem_filter, Finset.mem_range]

theorem isSupplied_of_slot {s : Slot} (h : a.slot position = .ok s) :
    a.isSupplied position = s.type.isSome := by
  rw [isSupplied, type, h]
  rfl

theorem supplied_ofArity (n : Nat) : (ofArity n).supplied = ∅ := by
  apply Finset.eq_empty_of_forall_notMem
  intro position hmem
  obtain ⟨hlt, hsupplied⟩ := mem_supplied.mp hmem
  rw [arity_ofArity] at hlt
  rw [isSupplied_of_slot (slot_ofArity hlt)] at hsupplied
  cases hsupplied

/-! ## One assignment -/

theorem supplied_of_assign {v : Value} {t : TypeDecl} (h : a.assign position v t = .ok a') :
    a'.arity = a.arity ∧ a'.assigned = a.assigned + 1 ∧
      a'.supplied = insert position a.supplied := by
  have hlt : position < a.arity := by
    by_contra hle
    rw [assign_of_le (Nat.not_lt.mp hle)] at h
    cases h
  obtain ⟨b, hb, harity, hassigned, hslot⟩ := a.exists_assign hlt v t
  cases hb.symm.trans h
  refine ⟨harity, hassigned, ?_⟩
  ext q
  rw [Finset.mem_insert, mem_supplied, mem_supplied, harity]
  by_cases hq : q = position
  · -- in the set once, whether it was in it before or not
    have hslot_q : a'.slot q = .ok ⟨v, some t⟩ := by rw [hslot, if_pos hq]
    rw [isSupplied_of_slot hslot_q, hq]
    exact ⟨fun _ => .inl rfl, fun _ => ⟨hlt, rfl⟩⟩
  · have hsame : a'.isSupplied q = a.isSupplied q := by
      rw [isSupplied, isSupplied, type, type, hslot, if_neg hq]
    rw [hsame, or_iff_right hq]

/-- What a view of this arity counts and shows, whose assignments went to these positions. -/
structure Counts (a : Arguments) (n : Nat) (positions : List Nat) : Prop where
  arity_eq : a.arity = n
  assigned_eq : a.assigned = positions.length
  supplied_eq : a.supplied = positions.toFinset

namespace Counts

theorem nil (n : Nat) : (ofArity n).Counts n [] where
  arity_eq := arity_ofArity n
  assigned_eq := rfl
  supplied_eq := supplied_ofArity n

/-- The counter goes up at every assignment, and the set only at a position that is new in it. -/
theorem assign (h : a.Counts n positions) (position : Nat) (v : Value) (t : TypeDecl) :
    (a.assign position v t).Yields (·.Counts n (positions ++ [position])) := by
  cases hassign : a.assign position v t with
  | error e => trivial
  | ok a' =>
    obtain ⟨harity, hassigned, hsupplied⟩ := supplied_of_assign hassign
    refine ⟨harity.trans h.arity_eq, ?_, ?_⟩
    · rw [hassigned, h.assigned_eq, List.length_append, List.length_singleton]
    · ext q
      rw [hsupplied, h.supplied_eq, Finset.mem_insert, List.mem_toFinset, List.mem_toFinset,
        List.mem_append, List.mem_singleton, or_comm]

theorem card_supplied_le (h : a.Counts n positions) : a.supplied.card ≤ n := by
  calc a.supplied.card
    _ ≤ (Finset.range a.arity).card := Finset.card_filter_le _ _
    _ = n := by rw [Finset.card_range, h.arity_eq]

theorem card_supplied_le_assigned (h : a.Counts n positions) :
    a.supplied.card ≤ a.assigned := by
  rw [h.supplied_eq, h.assigned_eq]
  exact positions.toFinset_card_le

theorem assigned_eq_card_iff (h : a.Counts n positions) :
    a.assigned = a.supplied.card ↔ positions.Nodup := by
  rw [h.assigned_eq, h.supplied_eq, eq_comm]
  exact Multiset.toFinset_card_eq_card_iff_nodup (m := (positions : Multiset Nat))

end Counts

/-! ## Sequences of assignments -/

theorem ofHistory_counts (n : Nat) (history : List Assignment) :
    (ofHistory n history).Counts n (acceptedPositions n history) := by
  induction history using List.reverseRecOn with
  | nil => exact .nil n
  | append_singleton history call ih =>
    rw [ofHistory_concat, acceptedPositions_concat]
    split
    next h =>
      rw [← ih.arity_eq] at h
      have hassign := ih.assign call.position call.value call.type
      rw [assign_of_lt h] at hassign
      exact hassign
    next h =>
      -- a refused call leaves the view, and counts for nothing
      rw [← ih.arity_eq, Nat.not_lt] at h
      rw [after_of_le h]
      exact ih

end Arguments

/-- By induction on the bindings that are left, with the positions that were assigned already. -/
theorem evalBindings_counts (env : Environment) (ctx : Context) {n : Nat} {done : List Nat}
    {args : Arguments} (h : args.Counts n done) (bs : Bindings) :
    (evalBindings env ctx bs args).Yields (·.Counts n (done ++ bs.map (·.1.position))) := by
  induction bs generalizing done args with
  | nil =>
    rw [List.map_nil, List.append_nil]
    exact h
  | cons b rest ih =>
    rw [evalBindings_cons_argument]
    refine Outcome.yields_bind _ fun v => ?_
    refine (h.assign b.1.position v b.2.type).bind fun args' hargs' => ?_
    have hrest := ih hargs'
    rw [List.append_assoc, List.singleton_append] at hrest
    exact hrest

/-- **Calls are counted.** The counter of a view is the number of the calls that it accepted, those
at one position included. So it is the number of positions with an argument if the accepted calls
went to different positions, and more than that otherwise; the positions are no more than the arity.
A function sees the same of the bindings of its call, unless an argument fails by itself. -/
theorem assignments_counted (n : Nat) (history : List Assignment) {f : FunctionDecl}
    {bs : Bindings} (hf : f.IsDeclared) (hbs : Bindings.IsBound f bs) (env : Environment)
    (ctx : Context) :
    (let view := Arguments.ofHistory n history
      let accepted := acceptedPositions n history
      view.Counts n accepted ∧ view.supplied.card ≤ n ∧ view.supplied.card ≤ view.assigned ∧
        (view.assigned = view.supplied.card ↔ accepted.Nodup)) ∧
      (evalBindings env ctx bs (.ofArity f.arity)).Satisfies
        (fun error => ∃ b ∈ bs, bindingArgument env ctx b = .error error)
        (fun view =>
          let bound := bs.map (·.1.position)
          (∀ i, f.invoker = some i → (Expr.call f bs).evaluate env ctx = (do
            let result ← i.invoke env ctx f view
            env.toInternal ctx f.resultAdapter result f.resultType)) ∧
          view.Counts f.arity bound ∧ view.supplied.card ≤ f.arity ∧
            view.supplied.card ≤ view.assigned ∧
            (view.assigned = view.supplied.card ↔ bound.Nodup)) := by
  constructor
  · have hcounts := Arguments.ofHistory_counts n history
    exact ⟨hcounts, hcounts.card_supplied_le, hcounts.card_supplied_le_assigned,
      hcounts.assigned_eq_card_iff⟩
  · have hcounts := evalBindings_counts env ctx (.nil f.arity) bs
    cases hview : evalBindings env ctx bs (.ofArity f.arity) with
    | error e =>
      have hlt := hbs.position_lt hf
      rw [← Arguments.arity_ofArity f.arity] at hlt
      exact exists_argument_of_evalBindings hlt hview
    | ok view =>
      rw [hview] at hcounts
      refine ⟨fun i hi => ?_, hcounts, hcounts.card_supplied_le,
        hcounts.card_supplied_le_assigned, hcounts.assigned_eq_card_iff⟩
      rw [Expr.evaluate_call hi, hview]
      rfl

/-- A call of LOWER with its one argument. -/
def lowerOnce : Bindings :=
  Bindings.bindPosition Standard.lower [] 0 (.scalar Standard.string (.string "A"))

/-- The same call, with the argument bound by its name once more. -/
def lowerTwice : Bindings :=
  Bindings.bindName Standard.lower lowerOnce "string" (.null Standard.string)

theorem lower_isDeclared : Standard.lower.IsDeclared :=
  .invoker (.parameter (.declare _ _) _ _ _) _

theorem lowerOnce_isBound : Bindings.IsBound Standard.lower lowerOnce := .position .nil _ _

theorem lowerOnce_counted :
    Standard.lower.IsDeclared ∧ Bindings.IsBound Standard.lower lowerOnce ∧
      ∃ view, evalBindings .utc .empty lowerOnce (.ofArity 1) = .ok view ∧
        view.assigned = view.supplied.card := by
  have hcounted :=
    (assignments_counted 1 [] lower_isDeclared lowerOnce_isBound .utc .empty).2
  refine ⟨lower_isDeclared, lowerOnce_isBound, _, rfl, ?_⟩
  obtain ⟨-, -, -, -, hiff⟩ := hcounted
  exact hiff.mpr (by decide)

/-- Two assignments of one position. -/
def assignedTwice : List Assignment :=
  [⟨0, .string "A", Standard.string⟩, ⟨0, .null, Standard.string⟩]

/-- The later assignment is shown, and both are counted: more than there are positions. -/
theorem assignedTwice_counted_twice :
    (Arguments.ofHistory 1 assignedTwice).assigned = 2 ∧
      (Arguments.ofHistory 1 assignedTwice).supplied.card = 1 ∧
      Standard.lower.IsDeclared ∧ Bindings.IsBound Standard.lower lowerTwice ∧
        ∃ view, evalBindings .utc .empty lowerTwice (.ofArity Standard.lower.arity) = .ok view ∧
          view.assigned = 2 ∧ view.supplied.card = 1 :=
  ⟨rfl, rfl, lower_isDeclared, .name lowerOnce_isBound _ _, _, rfl, rfl, rfl⟩

end TypedExpr
