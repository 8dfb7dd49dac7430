import TypedExpr.Proofs.Operands
import TypedExpr.Standard

/-!
# Binding arguments

A parameter's position is its place among the parameters, and a call binds nothing but parameters
that its function declares. So every argument has a slot in the view of the call, and putting it
there cannot fail. If no two arguments have one position, the view shows each of them in its slot
and nothing in the others: nothing in it tells in which order they were bound.
-/

namespace TypedExpr

/-! ## Declarations -/

namespace FunctionDecl

/-- The functions that are declared step by step. -/
inductive IsDeclared : FunctionDecl → Prop
  | declare (name : String) (resultType : TypeDecl) : IsDeclared (declare name resultType)
  | parameter {f : FunctionDecl} (h : IsDeclared f) (name : String) (type : TypeDecl)
      (adapter : Option Adapter) : IsDeclared (f.withParameter name type adapter)
  | invoker {f : FunctionDecl} (h : IsDeclared f) (i : Invoker) :
      IsDeclared { f with invoker := some i }
  | resultAdapter {f : FunctionDecl} (h : IsDeclared f) (a : Adapter) :
      IsDeclared { f with resultAdapter := some a }

variable {f : FunctionDecl}

theorem IsDeclared.position_eq (h : f.IsDeclared) {i : Nat} {p : Parameter}
    (hp : f.parameters[i]? = some p) : p.position = i := by
  induction h with
  | declare name resultType => cases hp
  | @parameter f _ name type adapter ih =>
    -- a parameter from before, or the new one behind them
    rw [withParameter, List.getElem?_append] at hp
    split at hp
    next => exact ih hp
    next hi =>
      rw [List.getElem?_singleton] at hp
      split at hp
      next hlast =>
        cases hp
        show f.parameters.length = i
        omega
      next => cases hp
  | invoker _ _ ih => exact ih hp
  | resultAdapter _ _ ih => exact ih hp

theorem IsDeclared.position_lt (h : f.IsDeclared) {p : Parameter} (hp : p ∈ f.parameters) :
    p.position < f.arity := by
  obtain ⟨i, hi⟩ := List.mem_iff_getElem?.mp hp
  rw [h.position_eq hi]
  exact (List.getElem?_eq_some_iff.mp hi).1

end FunctionDecl

namespace Bindings

/-- What a call of the function binds, by position or by name, one after the other. -/
inductive IsBound (f : FunctionDecl) : Bindings → Prop
  | nil : IsBound f []
  | position {bs : Bindings} (h : IsBound f bs) (position : Nat) (argument : Expr) :
      IsBound f (bindPosition f bs position argument)
  | name {bs : Bindings} (h : IsBound f bs) (name : String) (argument : Expr) :
      IsBound f (bindName f bs name argument)

variable {f : FunctionDecl} {bs : Bindings}

theorem mem_of_mem_bind? {found : Option Parameter} {argument : Expr}
    (hfound : ∀ p, found = some p → p ∈ f.parameters) (hbs : ∀ b ∈ bs, b.1 ∈ f.parameters) :
    ∀ b ∈ bs.bind? found argument, b.1 ∈ f.parameters := by
  cases found with
  | none => exact hbs
  | some p =>
    intro b hb
    rcases List.mem_append.mp hb with hb | hb
    · exact hbs b hb
    · rw [List.mem_singleton.mp hb]
      exact hfound p rfl

theorem IsBound.mem_parameters (h : IsBound f bs) : ∀ b ∈ bs, b.1 ∈ f.parameters := by
  induction h with
  | nil => exact List.forall_mem_nil _
  | position _ position argument ih =>
    exact mem_of_mem_bind? (fun p hp => List.mem_of_getElem? hp) ih
  | name _ name argument ih => exact mem_of_mem_bind? (fun p hp => List.mem_of_find?_eq_some hp) ih

theorem IsBound.position_lt (h : IsBound f bs) (hf : f.IsDeclared) :
    ∀ b ∈ bs, b.1.position < f.arity :=
  fun b hb => hf.position_lt (h.mem_parameters b hb)

end Bindings

/-! ## Arguments -/

section

variable (env : Environment) (ctx : Context)

/-- The argument of a binding in the model's form. -/
def bindingArgument (b : Parameter × Expr) : Outcome Value := do
  let v ← b.2.evaluate env ctx
  env.toModel ctx b.1.adapter v b.1.type

theorem evalBindings_cons_argument (b : Parameter × Expr) (rest : Bindings) (args : Arguments) :
    evalBindings env ctx (b :: rest) args = (do
      let argument ← bindingArgument env ctx b
      let args ← args.assign b.1.position argument b.2.type
      evalBindings env ctx rest args) := by
  obtain ⟨p, e⟩ := b
  simp only [evalBindings_cons, bindingArgument, bind_assoc]

variable {env ctx}

theorem evalBindings_cons_of_assign {b : Parameter × Expr} {v : Value} {args args' : Arguments}
    (hv : bindingArgument env ctx b = .ok v)
    (hassign : args.assign b.1.position v b.2.type = .ok args') (rest : Bindings) :
    evalBindings env ctx (b :: rest) args = evalBindings env ctx rest args' := by
  rw [evalBindings_cons_argument, hv]
  show (args.assign b.1.position v b.2.type >>= evalBindings env ctx rest) = _
  rw [hassign]
  rfl

/-- Arguments within the arity are put into the view, unless one of them fails by itself. -/
theorem exists_argument_of_evalBindings {bs : Bindings} {args : Arguments} {error : EvalError}
    (hlt : ∀ b ∈ bs, b.1.position < args.arity)
    (herror : evalBindings env ctx bs args = .error error) :
    ∃ b ∈ bs, bindingArgument env ctx b = .error error := by
  induction bs generalizing args with
  | nil => cases herror
  | cons b rest ih =>
    rw [List.forall_mem_cons] at hlt
    cases hb : bindingArgument env ctx b with
    | error e =>
      rw [evalBindings_cons_argument, hb] at herror
      cases herror
      exact ⟨b, List.mem_cons_self, hb⟩
    | ok v =>
      -- there is a slot for this one, so the error is of an argument behind it
      obtain ⟨args', hassign, harity, -, -⟩ := args.exists_assign hlt.1 v b.2.type
      rw [evalBindings_cons_of_assign hb hassign] at herror
      rw [← harity] at hlt
      obtain ⟨b', hmem, hb'⟩ := ih hlt.2 herror
      exact ⟨b', List.mem_cons_of_mem b hmem, hb'⟩

/-! ## Views -/

namespace Arguments

/-- The view of these bindings and of nothing else. -/
structure Presents (env : Environment) (ctx : Context) (arity : Nat) (bs : Bindings)
    (args : Arguments) : Prop where
  arity_eq : args.arity = arity
  assigned_eq : args.assigned = bs.length
  slot_bound : ∀ b ∈ bs, ∀ v, bindingArgument env ctx b = .ok v →
    args.slot b.1.position = .ok ⟨v, some b.2.type⟩
  slot_unbound : ∀ position < arity, (∀ b ∈ bs, b.1.position ≠ position) →
    args.slot position = .ok ⟨.null, none⟩

namespace Presents

variable {arity : Nat} {bs bs' : Bindings} {args args' : Arguments}

theorem nil (arity : Nat) : (ofArity arity).Presents env ctx arity [] where
  arity_eq := arity_ofArity arity
  assigned_eq := rfl
  slot_bound := List.forall_mem_nil _
  slot_unbound _ h _ := slot_ofArity h

/-- One more argument, at a position that no other has. -/
theorem assign (h : args.Presents env ctx arity bs) {b : Parameter × Expr} {v : Value}
    (hlt : b.1.position < arity) (hnew : ∀ b' ∈ bs, b'.1.position ≠ b.1.position)
    (hv : bindingArgument env ctx b = .ok v) :
    ∃ args', args.assign b.1.position v b.2.type = .ok args' ∧
      args'.Presents env ctx arity (bs ++ [b]) := by
  rw [← h.arity_eq] at hlt
  obtain ⟨args', hassign, harity, hassigned, hslot⟩ := args.exists_assign hlt v b.2.type
  refine ⟨args', hassign, ?_, ?_, ?_, ?_⟩
  · rw [harity, h.arity_eq]
  · rw [hassigned, h.assigned_eq, List.length_append, List.length_singleton]
  · intro b' hb' w hw
    rcases List.mem_append.mp hb' with hb' | hb'
    · rw [hslot, if_neg (hnew b' hb'), h.slot_bound b' hb' w hw]
    · cases List.mem_singleton.mp hb'
      cases hv.symm.trans hw
      rw [hslot, if_pos rfl]
  · intro position hposition hfree
    have hfree_b : position ≠ b.1.position :=
      (hfree b (List.mem_append_right bs List.mem_cons_self)).symm
    rw [hslot, if_neg hfree_b]
    apply h.slot_unbound position hposition
    exact fun b' hb' => hfree b' (List.mem_append_left [b] hb')

/-- A view tells which arguments there are and not in which order they came. -/
theorem perm (h : args.Presents env ctx arity bs) (hperm : bs.Perm bs') :
    args.Presents env ctx arity bs' where
  arity_eq := h.arity_eq
  assigned_eq := h.assigned_eq.trans hperm.length_eq
  slot_bound b hb := h.slot_bound b (hperm.mem_iff.mpr hb)
  slot_unbound position hposition hfree :=
    h.slot_unbound position hposition fun b hb => hfree b (hperm.mem_iff.mp hb)

theorem unique (h : args.Presents env ctx arity bs) (h' : args'.Presents env ctx arity bs)
    (hvalues : ∀ b ∈ bs, ∃ v, bindingArgument env ctx b = .ok v) : args = args' := by
  apply ext_slot
  · rw [h.arity_eq, h'.arity_eq]
  · rw [h.assigned_eq, h'.assigned_eq]
  · intro position hposition
    rw [h.arity_eq] at hposition
    by_cases hbound : ∃ b ∈ bs, b.1.position = position
    · obtain ⟨b, hb, rfl⟩ := hbound
      obtain ⟨v, hv⟩ := hvalues b hb
      rw [h.slot_bound b hb v hv, h'.slot_bound b hb v hv]
    · have hfree : ∀ b ∈ bs, b.1.position ≠ position := fun b hb heq => hbound ⟨b, hb, heq⟩
      rw [h.slot_unbound position hposition hfree, h'.slot_unbound position hposition hfree]

end Presents

end Arguments

/-- By induction on the bindings that are left, with those that the view presents already. -/
theorem evalBindings_presents {arity : Nat} {done rest : Bindings} {args : Arguments}
    (h : args.Presents env ctx arity done) (hlt : ∀ b ∈ rest, b.1.position < arity)
    (hnodup : ((done ++ rest).map (·.1.position)).Nodup)
    (hvalues : ∀ b ∈ rest, ∃ v, bindingArgument env ctx b = .ok v) :
    ∃ view, evalBindings env ctx rest args = .ok view ∧
      view.Presents env ctx arity (done ++ rest) := by
  induction rest generalizing done args with
  | nil =>
    rw [List.append_nil]
    exact ⟨args, rfl, h⟩
  | cons b rest ih =>
    rw [List.forall_mem_cons] at hlt hvalues
    obtain ⟨v, hv⟩ := hvalues.1
    have hnew : ∀ b' ∈ done, b'.1.position ≠ b.1.position := by
      rw [List.map_append, List.nodup_append] at hnodup
      intro b' hb'
      exact hnodup.2.2 _ (List.mem_map_of_mem hb') _ (List.mem_map_of_mem List.mem_cons_self)
    obtain ⟨args', hassign, hargs'⟩ := h.assign hlt.1 hnew hv
    have hcons : done ++ b :: rest = done ++ [b] ++ rest := by
      rw [List.append_assoc, List.singleton_append]
    rw [hcons] at hnodup ⊢
    obtain ⟨view, hview, hpresents⟩ := ih hargs' hlt.2 hnodup hvalues.2
    rw [evalBindings_cons_of_assign hv hassign]
    exact ⟨view, hview, hpresents⟩

theorem Expr.eval_call_congr (f : FunctionDecl) {bs bs' : Bindings}
    (h : evalBindings env ctx bs (.ofArity f.arity) = evalBindings env ctx bs' (.ofArity f.arity)) :
    (Expr.call f bs).eval env ctx = (Expr.call f bs').eval env ctx := by
  simp only [Expr.eval, h]

end

/-- **Arguments in any order.** Every binding of a call has a position below the arity of its
function, so binding fails only where an argument fails by itself. If the positions differ and no
argument fails, every order of the bindings gives the same view and the same outcome: of each
argument the view shows value and type at its position, and no value and no type at the positions
that are left. -/
theorem bindings_in_any_order {f : FunctionDecl} {bs : Bindings} (hf : f.IsDeclared)
    (hbs : Bindings.IsBound f bs) (env : Environment) (ctx : Context) :
    (∀ b ∈ bs, b.1.position < f.arity) ∧
      (∀ error, evalBindings env ctx bs (.ofArity f.arity) = .error error →
        ∃ b ∈ bs, bindingArgument env ctx b = .error error) ∧
      ((bs.map (·.1.position)).Nodup → (∀ b ∈ bs, ∃ v, bindingArgument env ctx b = .ok v) →
        ∀ bs', bs.Perm bs' →
          (∃ view : Arguments, view.Presents env ctx f.arity bs ∧
            evalBindings env ctx bs (.ofArity f.arity) = .ok view ∧
            evalBindings env ctx bs' (.ofArity f.arity) = .ok view) ∧
          (Expr.call f bs').eval env ctx = (Expr.call f bs).eval env ctx) := by
  have hlt := hbs.position_lt hf
  refine ⟨hlt, ?_, ?_⟩
  · intro error herror
    rw [← Arguments.arity_ofArity f.arity] at hlt
    exact exists_argument_of_evalBindings hlt herror
  · intro hnodup hvalues bs' hperm
    have hlt' : ∀ b ∈ bs', b.1.position < f.arity := fun b hb => hlt b (hperm.mem_iff.mpr hb)
    have hnodup' : (bs'.map (·.1.position)).Nodup := (hperm.map _).nodup_iff.mp hnodup
    have hvalues' : ∀ b ∈ bs', ∃ v, bindingArgument env ctx b = .ok v :=
      fun b hb => hvalues b (hperm.mem_iff.mpr hb)
    obtain ⟨view, hview, hpresents⟩ :=
      evalBindings_presents (.nil f.arity) hlt hnodup hvalues
    obtain ⟨view', hview', hpresents'⟩ :=
      evalBindings_presents (.nil f.arity) hlt' hnodup' hvalues'
    -- both present the same arguments, so they are one view
    have heq : view' = view := (hpresents'.perm hperm.symm).unique hpresents hvalues
    rw [heq] at hview'
    exact ⟨⟨view, hpresents, hview, hview'⟩, Expr.eval_call_congr f (hview'.trans hview.symm)⟩

/-- A function of a point in time, kept as milliseconds, an interval and a note. -/
def remind : FunctionDecl :=
  { (((FunctionDecl.declare "REMIND" Standard.timestamp).withParameter "at" Standard.timestamp
      (some .epochMillis)).withParameter "again" Standard.interval none).withParameter "note"
      Standard.string none with
    invoker := some (.host "remind") }

/-- A call that binds the second parameter before the first, and not the third. -/
def reminder : Bindings :=
  [(⟨"again", 1, Standard.interval, none⟩,
      .scalar Standard.interval (.interval ⟨0, 0, 7, 0, 0, 0⟩)),
    (⟨"at", 0, Standard.timestamp, some .epochMillis⟩,
      .scalar Standard.timestamp (.instant (.startOfDay ⟨719164, by decide, by decide⟩)))]

/-- A host whose functions yield their first argument. -/
def firstArgument : Environment :=
  ⟨.fixed 0, { Host.bare with invoke := fun _ _ _ args => args.value 0 }⟩

/-- A position and a name that the function does not declare bind nothing. -/
theorem reminder_in_any_order :
    remind.IsDeclared ∧ Bindings.IsBound remind reminder ∧
      (reminder.map (·.1.position)).Nodup ∧
      (∀ b ∈ reminder, ∃ v, bindingArgument firstArgument .empty b = .ok v) ∧
      reminder.Perm reminder.reverse ∧
      (Expr.call remind reminder.reverse).eval firstArgument .empty =
        (Expr.call remind reminder).eval firstArgument .empty := by
  have hdeclared : remind.IsDeclared :=
    .invoker (.parameter (.parameter (.parameter (.declare _ _) _ _ _) _ _ _) _ _ _) _
  have hbound : Bindings.IsBound remind reminder :=
    .name (.position (.position (.name .nil "again" _) 0 _) 3 (.scalar Standard.string .null))
      "notes" (.scalar Standard.string .null)
  have hnodup : (reminder.map (·.1.position)).Nodup := by decide
  have hvalues : ∀ b ∈ reminder, ∃ v, bindingArgument firstArgument .empty b = .ok v :=
    List.forall_mem_cons.mpr ⟨⟨_, rfl⟩, List.forall_mem_cons.mpr ⟨⟨_, rfl⟩, List.forall_mem_nil _⟩⟩
  have hperm : reminder.Perm reminder.reverse := reminder.reverse_perm.symm
  exact ⟨hdeclared, hbound, hnodup, hvalues, hperm,
    ((bindings_in_any_order hdeclared hbound firstArgument .empty).2.2 hnodup hvalues _ hperm).2⟩

/-- Two arguments at one position: the later one is seen, and both are counted. -/
example :
    evalBindings .utc .empty
      [(⟨"string", 0, Standard.string, none⟩, .scalar Standard.string (.string "a")),
        (⟨"string", 0, Standard.string, none⟩, .scalar Standard.string .null)] (.ofArity 1) =
      .ok ⟨[⟨.null, some Standard.string⟩], 2⟩ := rfl

end TypedExpr
