import Mathlib
import TypedExpr.Model
import TypedExpr.Proofs.InsertionOrder

/-!
# Models and the logs they were assembled from

A model is assembled by registrations, one after the other and of all four sorts in any order. It
answers as one would from their log: what is found under a name is what was registered last under it,
lists go by the first registration of each name, and what one part of the model answers depends on
the registrations of that part alone.
-/

namespace TypedExpr

/-! ### Names without regard to case -/

/-- Names that differ at most in the case of their ASCII letters. -/
def SameUpToCase (a b : String) : Prop := a.toList.map Char.toLower = b.toList.map Char.toLower

instance (a b : String) : Decidable (SameUpToCase a b) :=
  inferInstanceAs (Decidable (a.toList.map Char.toLower = b.toList.map Char.toLower))

/-- Functions are registered under one key exactly if their names agree up to case. -/
theorem functionKey_eq_iff {a b : String} :
    Model.functionKey a = Model.functionKey b ↔ SameUpToCase a b := by
  have hkey (s : String) : (Model.functionKey s).toList = s.toList.map Char.toUpper :=
    String.toList_map
  have hupper (s : List Char) : (s.map Char.toLower).map Char.toUpper = s.map Char.toUpper := by
    rw [List.map_map]
    exact List.map_congr_left fun c _ => Char.toUpper_toLower_eq_toUpper c
  have hlower (s : List Char) : (s.map Char.toUpper).map Char.toLower = s.map Char.toLower := by
    rw [List.map_map]
    exact List.map_congr_left fun c _ => Char.toLower_toUpper_eq_toLower c
  rw [← String.toList_inj, hkey, hkey, SameUpToCase]
  -- raising and lowering undo each other, so either case tells as much as the other
  constructor
  · intro h
    rw [← hlower, h, hlower]
  · intro h
    rw [← hupper, h, hupper]

/-! ### Registrations -/

/-- The parts of a model. -/
inductive Part where
  | types
  | attributes
  | functions
  | converters
  deriving DecidableEq

/-- One call on a builder. -/
inductive Registration where
  | addType (t : TypeDecl)
  | addAttribute (a : Attribute)
  | addFunction (f : FunctionDecl)
  | addConverter (source target : ValueKind) (c : Converter)

namespace Registration

def part : Registration → Part
  | addType _ => .types
  | addAttribute _ => .attributes
  | addFunction _ => .functions
  | addConverter .. => .converters

def type? : Registration → Option TypeDecl
  | addType t => some t
  | _ => none

def attribute? : Registration → Option Attribute
  | addAttribute a => some a
  | _ => none

def function? : Registration → Option FunctionDecl
  | addFunction f => some f
  | _ => none

/-- A converter with the kinds it leads from and to. -/
def converter? : Registration → Option (ValueKind × ValueKind × Converter)
  | addConverter source target c => some (source, target, c)
  | _ => none

variable {r : Registration}

theorem type?_eq_none (h : r.part ≠ .types) : r.type? = none := by
  cases r with
  | addType t => exact absurd rfl h
  | _ => rfl

theorem attribute?_eq_none (h : r.part ≠ .attributes) : r.attribute? = none := by
  cases r with
  | addAttribute a => exact absurd rfl h
  | _ => rfl

theorem function?_eq_none (h : r.part ≠ .functions) : r.function? = none := by
  cases r with
  | addFunction f => exact absurd rfl h
  | _ => rfl

theorem converter?_eq_none (h : r.part ≠ .converters) : r.converter? = none := by
  cases r with
  | addConverter source target c => exact absurd rfl h
  | _ => rfl

end Registration

/-- The calls on a builder in the order in which they were made. -/
abbrev Log := List Registration

namespace Log

def types (log : Log) : List TypeDecl := log.filterMap Registration.type?

def attributes (log : Log) : List Attribute := log.filterMap Registration.attribute?

def functions (log : Log) : List FunctionDecl := log.filterMap Registration.function?

def converters (log : Log) : List (ValueKind × ValueKind × Converter) :=
  log.filterMap Registration.converter?

/-- The calls that concern one part of the model. -/
def ofPart (log : Log) (part : Part) : Log := log.filter (·.part = part)

theorem filterMap_ofPart {β : Type} {of? : Registration → Option β} {part : Part}
    (h : ∀ r, r.part ≠ part → of? r = none) (log : Log) :
    (log.ofPart part).filterMap of? = log.filterMap of? := by
  rw [ofPart, List.filterMap_filter]
  refine List.filterMap_congr fun r _ => ?_
  by_cases hr : r.part = part
  · rw [if_pos (decide_eq_true hr)]
  · rw [if_neg (mt of_decide_eq_true hr), h r hr]

theorem filterMap_eq_of_ofPart {β : Type} {of? : Registration → Option β} {part : Part}
    (h : ∀ r, r.part ≠ part → of? r = none) {log log' : Log}
    (hlog : log.ofPart part = log'.ofPart part) : log.filterMap of? = log'.filterMap of? := by
  rw [← filterMap_ofPart h log, hlog, filterMap_ofPart h]

end Log

namespace Model

def register (m : Model) : Registration → Model
  | .addType t => m.addType t
  | .addAttribute a => m.addAttribute a
  | .addFunction f => m.addFunction f
  | .addConverter source target c => m.addConverter source target c

/-- The model that a log assembles, from the empty one on. -/
def ofLog (log : Log) : Model := log.foldl register empty

/-- The four parts of a model keep what the log added to them. -/
structure Keeps (m : Model) (log : Log) : Prop where
  types : Dictionary.Keeps m.types TypeDecl.name id log.types
  attributes : Dictionary.Keeps m.attributes (fun a => (a.owner, a.name)) id log.attributes
  functions : Dictionary.Keeps m.functions (fun f => functionKey f.name) id log.functions
  converters : Dictionary.Keeps m.converters.entries (fun c => (c.1, c.2.1)) (·.2.2) log.converters

/-- One more registration: each part keeps it or is not concerned. -/
theorem Keeps.register {m : Model} {log : Log} (h : m.Keeps log) (r : Registration) :
    (m.register r).Keeps (log ++ [r]) := by
  have htypes := h.types.insert_of_log r
  have hattributes := h.attributes.insert_of_log r
  have hfunctions := h.functions.insert_of_log r
  have hconverters := h.converters.insert_of_log r
  -- once the sort of the registration is known, three of the four turn out to be unchanged
  cases r <;> exact ⟨htypes, hattributes, hfunctions, hconverters⟩

theorem ofLog_keeps (log : Log) : (ofLog log).Keeps log := by
  induction log using List.reverseRecOn with
  | nil => exact ⟨.nil, .nil, .nil, .nil⟩
  | append_singleton log r ih =>
    rw [ofLog, List.foldl_append]
    exact ih.register r

/-- What a model answers, read off the log of its registrations. -/
structure Answers (m : Model) (log : Log) : Prop where
  type_last : ∀ name, m.type? name = (log.types.filter (·.name = name)).getLast?
  types_inOrder : m.allTypes.map some = (log.types.map (·.name)).eraseDups.map m.type?
  attribute_last : ∀ owner name, m.attribute? owner name =
    (log.attributes.filter fun a => a.owner = owner ∧ a.name = name).getLast?
  attributes_inOrder : ∀ owner, (m.attributesOf owner).map some =
    ((log.attributes.filter (·.owner = owner)).map (·.name)).eraseDups.map (m.attribute? owner)
  function_last : ∀ name, m.function? name =
    (log.functions.filter fun f => SameUpToCase f.name name).getLast?
  converter_last : ∀ source target, m.converter? source target =
    (log.converters.filter fun c => c.1 = source ∧ c.2.1 = target).getLast?.map (·.2.2)

theorem Keeps.answers {m : Model} {log : Log} (h : m.Keeps log) : m.Answers log where
  type_last name := by
    rw [type?, h.types.get?_eq, Option.map_id, id_eq]
  types_inOrder := h.types.values_eq
  attribute_last owner name := by
    rw [attribute?, h.attributes.get?_eq, Option.map_id, id_eq]
    simp only [Prod.mk.injEq]
  attributes_inOrder owner := by
    -- among the pairs of one owner, names are as good as pairs
    have hkeys : (log.attributes.map fun a => (a.owner, a.name)).filter (·.1 == owner) =
        ((log.attributes.filter (·.owner = owner)).map (·.name)).map (Prod.mk owner) := by
      rw [List.filter_map, List.map_map]
      refine List.map_congr_left fun a ha => ?_
      have howner : a.owner = owner := by simpa using (List.mem_filter.mp ha).2
      rw [howner]
      rfl
    have hvalues := h.attributes.values_filter (·.1 == owner)
    rw [hkeys, eraseDups_map fun _ _ heq => (Prod.mk.inj heq).2, List.map_map] at hvalues
    exact hvalues
  function_last name := by
    rw [function?, h.functions.get?_eq, Option.map_id, id_eq]
    simp only [functionKey_eq_iff]
  converter_last source target := by
    rw [converter?, Converters.get?, h.converters.get?_eq]
    simp only [Prod.mk.injEq]

/-- Two models that answer alike about one part. -/
def AnswersLike (m m' : Model) : Part → Prop
  | .types => (∀ name, m.type? name = m'.type? name) ∧ m.allTypes = m'.allTypes
  | .attributes =>
    (∀ owner name, m.attribute? owner name = m'.attribute? owner name) ∧
      ∀ owner, m.attributesOf owner = m'.attributesOf owner
  | .functions => ∀ name, m.function? name = m'.function? name
  | .converters => ∀ source target, m.converter? source target = m'.converter? source target

/-- What a model answers about a part depends on the registrations of that part alone. -/
theorem Answers.like {m m' : Model} {log log' : Log} {part : Part} (h : m.Answers log)
    (h' : m'.Answers log') (hpart : log.ofPart part = log'.ofPart part) :
    m.AnswersLike m' part := by
  have hinj {β : Type} (a b : β) (heq : some a = some b) : a = b := Option.some.inj heq
  cases part with
  | types =>
    have htypes : log.types = log'.types :=
      Log.filterMap_eq_of_ofPart (fun _ => Registration.type?_eq_none) hpart
    have hlast (name : String) : m.type? name = m'.type? name := by
      rw [h.type_last, h'.type_last, htypes]
    refine ⟨hlast, (List.map_inj_right hinj).mp ?_⟩
    rw [h.types_inOrder, h'.types_inOrder, htypes, funext hlast]
  | attributes =>
    have hattributes : log.attributes = log'.attributes :=
      Log.filterMap_eq_of_ofPart (fun _ => Registration.attribute?_eq_none) hpart
    have hlast (owner name : String) : m.attribute? owner name = m'.attribute? owner name := by
      rw [h.attribute_last, h'.attribute_last, hattributes]
    refine ⟨hlast, fun owner => (List.map_inj_right hinj).mp ?_⟩
    rw [h.attributes_inOrder, h'.attributes_inOrder, hattributes, funext (hlast owner)]
  | functions =>
    have hfunctions : log.functions = log'.functions :=
      Log.filterMap_eq_of_ofPart (fun _ => Registration.function?_eq_none) hpart
    intro name
    rw [h.function_last, h'.function_last, hfunctions]
  | converters =>
    have hconverters : log.converters = log'.converters :=
      Log.filterMap_eq_of_ofPart (fun _ => Registration.converter?_eq_none) hpart
    intro source target
    rw [h.converter_last, h'.converter_last, hconverters]

end Model

/-! ### Names in another case -/

/-- A function under its name in another case. -/
def FunctionDecl.Recased (f g : FunctionDecl) : Prop :=
  SameUpToCase f.name g.name ∧ g = { f with name := g.name }

/-- The same registration, but for the case of a function's name. -/
inductive Registration.Recased : Registration → Registration → Prop
  | same (r : Registration) : Recased r r
  | function {f g : FunctionDecl} (h : f.Recased g) : Recased (addFunction f) (addFunction g)

theorem Registration.Recased.function? {r r' : Registration} (h : r.Recased r') :
    Option.Rel FunctionDecl.Recased r.function? r'.function? := by
  cases h with
  | same =>
    cases r with
    | addFunction f => exact .some ⟨rfl, rfl⟩
    | _ => exact .none
  | function h => exact .some h

theorem getLast?_related {α β : Type} {R : α → β → Prop} {l : List α} {l' : List β}
    (h : List.Forall₂ R l l') : Option.Rel R l.getLast? l'.getLast? := by
  induction h with
  | nil => exact .none
  | @cons a b l l' hhead _ ih =>
    rw [List.getLast?_cons, List.getLast?_cons]
    generalize l.getLast? = last, l'.getLast? = last' at ih ⊢
    cases ih with
    | none => exact .some hhead
    | some hlast => exact .some hlast

theorem Model.Answers.function_recased {m m' : Model} {log log' : Log} (h : m.Answers log)
    (h' : m'.Answers log') (hlog : List.Forall₂ Registration.Recased log log') (name : String) :
    Option.Rel FunctionDecl.Recased (m.function? name) (m'.function? name) := by
  have hfunctions : List.Forall₂ FunctionDecl.Recased log.functions log'.functions :=
    List.rel_filterMap (fun _ _ hr => hr.function?) hlog
  rw [h.function_last, h'.function_last]
  refine getLast?_related (List.rel_filter (fun f g hfg => ?_) hfunctions)
  have hname : SameUpToCase f.name g.name := hfg.1
  simp only [decide_eq_true_eq]
  exact ⟨hname.symm.trans, hname.trans⟩

/-! ### The log as the meaning of a model -/

/-- **A model refines its log.** After any registrations in any order: a type, an attribute, a
function and a converter is the last one registered under its name, its owner and name, its name up
to case and its kinds; types are listed once for each name and attributes once for each name of an
owner, in the order of first registration; the case of names does not tell functions apart, neither
where they are looked up nor where they are registered; and a registration, wherever it is made,
leaves the answers about the other parts as they are. -/
theorem answers_ofLog (log : Log) :
    (Model.ofLog log).Answers log ∧
      (∀ name name', SameUpToCase name name' →
        (Model.ofLog log).function? name = (Model.ofLog log).function? name') ∧
      (∀ log', List.Forall₂ Registration.Recased log log' → ∀ name,
        Option.Rel FunctionDecl.Recased ((Model.ofLog log).function? name)
          ((Model.ofLog log').function? name)) ∧
      ∀ before after r part, log = before ++ after → r.part ≠ part →
        (Model.ofLog (before ++ r :: after)).AnswersLike (Model.ofLog log) part := by
  have hanswers (log : Log) : (Model.ofLog log).Answers log := (Model.ofLog_keeps log).answers
  refine ⟨hanswers log, ?_, ?_, ?_⟩
  · intro name name' hname
    rw [Model.function?, functionKey_eq_iff.mpr hname, Model.function?]
  · intro log' hlog name
    exact (hanswers log).function_recased (hanswers log') hlog name
  · intro before after r part hlog hpart
    subst hlog
    -- the registration is of another part, so both logs have the same ones of this part
    refine (hanswers _).like (hanswers _) ?_
    have hskip : (r :: after).filter (·.part = part) = after.filter (·.part = part) :=
      List.filter_cons_of_neg (mt of_decide_eq_true hpart)
    rw [Log.ofPart, Log.ofPart, List.filter_append, List.filter_append, hskip]

/-- A stockroom whose type and function are registered twice, the function once in lower case. -/
def stockroom (restock : String) : Log :=
  [.addType (.bare "Item" .basic),
    .addFunction (.declare restock (.bare "Item" .basic)),
    .addAttribute ⟨"Item", "count", .bare "Integer" .basic, none, none⟩,
    .addConverter .integer .string .display,
    .addType (.bare "Item" .entity),
    .addFunction ((FunctionDecl.declare "Restock" (.bare "Item" .entity)).withParameter "by"
      (.bare "Integer" .basic) none)]

theorem stockroom_answers :
    (Model.ofLog (stockroom "restock")).type? "Item" = some (.bare "Item" .entity) ∧
      SameUpToCase "restock" "RESTOCK" ∧
      (Model.ofLog (stockroom "restock")).function? "restock" =
        (Model.ofLog (stockroom "restock")).function? "RESTOCK" ∧
      List.Forall₂ Registration.Recased (stockroom "restock") (stockroom "RESTOCK") ∧
      Option.Rel FunctionDecl.Recased ((Model.ofLog (stockroom "restock")).function? "Restock")
        ((Model.ofLog (stockroom "RESTOCK")).function? "Restock") ∧
      (Registration.addType (.bare "Shelf" .entity)).part ≠ .functions ∧
      (Model.ofLog (stockroom "restock" ++ [.addType (.bare "Shelf" .entity)])).AnswersLike
        (Model.ofLog (stockroom "restock")) .functions := by
  have hcase : SameUpToCase "restock" "RESTOCK" := by decide
  have hrecased : List.Forall₂ Registration.Recased (stockroom "restock") (stockroom "RESTOCK") :=
    .cons (.same _) <| .cons (.function ⟨hcase, rfl⟩) <| .cons (.same _) <| .cons (.same _) <|
      .cons (.same _) <| .cons (.same _) .nil
  have hpart : (Registration.addType (.bare "Shelf" .entity)).part ≠ .functions := by decide
  obtain ⟨hanswers, hname, hlog, hframe⟩ := answers_ofLog (stockroom "restock")
  refine ⟨?_, hcase, hname _ _ hcase, hrecased, hlog _ hrecased _, hpart, ?_⟩
  · rw [hanswers.type_last]
    rfl
  · exact hframe _ [] _ _ (List.append_nil _).symm hpart

end TypedExpr
