import Mathlib.Data.List.Perm.Subperm
import TypedExpr.Proofs.NumericOrder

/-!
# Equality of entities

Values are equal if they stand for the same thing. A decimal stands for its number, an entity for
its type's name and what is under each name, whatever the order, and a collection for what its items
stand for, one after the other. So equality is an equivalence, at any depth, provided that the
attributes of an entity have different names.
-/

namespace TypedExpr

theorem Decimal.same_iff_toRat_eq {a b : Decimal} : a.same b ↔ a.toRat = b.toRat := by
  rw [same, beq_iff_eq]
  exact (a.compare_compares b).eq_eq

/-! ## What values stand for -/

/-- What a value stands for. -/
inductive Meaning where
  | plain (v : Value)
  | number (q : ℚ)
  | entity (typeName : String) (attributes : String → Option Meaning)
  | collection (items : List Meaning)

namespace Value

mutual

def meaning : Value → Meaning
  | .decimal d => .number d.toRat
  | .entity typeName attributes => .entity typeName (attributeMeaning attributes)
  | .collection items => .collection (itemMeanings items)
  | v => .plain v

/-- What stands under a name. -/
def attributeMeaning : List (String × Value) → String → Option Meaning
  | [], _ => none
  | (name, v) :: rest, wanted =>
    if name = wanted then some v.meaning else attributeMeaning rest wanted

def itemMeanings : List Value → List Meaning
  | [] => []
  | v :: rest => v.meaning :: itemMeanings rest

end

theorem attributeMeaning_eq (attributes : List (String × Value)) (name : String) :
    attributeMeaning attributes name = (Dictionary.get? attributes name).map meaning := by
  induction attributes with
  | nil => rfl
  | cons p rest ih =>
    obtain ⟨k, v⟩ := p
    rw [attributeMeaning, Dictionary.get?, ih]
    split <;> rfl

theorem attributeMeaning_append (front rest : List (String × Value)) (name : String) :
    attributeMeaning (front ++ rest) name =
      (attributeMeaning front name).or (attributeMeaning rest name) := by
  induction front with
  | nil => rfl
  | cons p front ih =>
    obtain ⟨k, v⟩ := p
    rw [List.cons_append, attributeMeaning, attributeMeaning, ih]
    split <;> rfl

theorem itemMeanings_eq (items : List Value) : itemMeanings items = items.map meaning := by
  induction items with
  | nil => rfl
  | cons v rest ih => rw [itemMeanings, ih, List.map_cons]

/-- Whether a value holds other values. -/
def isComposite : Value → Bool
  | .entity .. | .collection _ => true
  | _ => false

/-- A value in which the attributes of every entity have different names. -/
inductive IsWellFormed : Value → Prop
  | simple {v : Value} (h : ¬ v.isComposite) : IsWellFormed v
  | entity {typeName : String} {attributes : List (String × Value)}
      (hkeys : (Dictionary.keys attributes).Nodup) (h : ∀ p ∈ attributes, IsWellFormed p.2) :
      IsWellFormed (.entity typeName attributes)
  | collection {items : List Value} (h : ∀ v ∈ items, IsWellFormed v) :
      IsWellFormed (.collection items)

theorem isWellFormed_entity_iff {typeName : String} {attributes : List (String × Value)} :
    (Value.entity typeName attributes).IsWellFormed ↔
      (Dictionary.keys attributes).Nodup ∧ ∀ p ∈ attributes, p.2.IsWellFormed := by
  constructor
  · intro h
    cases h with
    | simple h => exact absurd rfl h
    | entity hkeys h => exact ⟨hkeys, h⟩
  · exact fun h => .entity h.1 h.2

theorem isWellFormed_collection_iff {items : List Value} :
    (Value.collection items).IsWellFormed ↔ ∀ v ∈ items, v.IsWellFormed := by
  constructor
  · intro h
    cases h with
    | simple h => exact absurd rfl h
    | collection h => exact h
  · exact .collection

/-! ## Equality by meaning -/

theorem same_iff_of_not_isComposite {v : Value} (hv : ¬ v.isComposite) (w : Value) :
    v.same w ↔ v.meaning = w.meaning := by
  cases v <;> cases w <;> simp_all [same, meaning, isComposite, Decimal.same_iff_toRat_eq]

theorem sameAttributes_iff {as bs : List (String × Value)} :
    sameAttributes as bs ↔ ∀ p ∈ as, ∃ w, Dictionary.get? bs p.1 = some w ∧ p.2.same w := by
  induction as with
  | nil => simp [sameAttributes]
  | cons p rest ih =>
    obtain ⟨name, v⟩ := p
    rw [sameAttributes, Bool.and_eq_true, ih, List.forall_mem_cons]
    cases Dictionary.get? bs name <;> simp

/-- Attributes with different names that have partners are as many as these only if no name is left
over on the other side. -/
theorem keys_perm_of_partners {as bs : List (String × Value)} (hkeys : (Dictionary.keys as).Nodup)
    (hlength : as.length = bs.length)
    (h : ∀ p ∈ as, ∃ w, Dictionary.get? bs p.1 = some w ∧ p.2.same w) :
    (Dictionary.keys as).Perm (Dictionary.keys bs) := by
  have hsubset : Dictionary.keys as ⊆ Dictionary.keys bs := by
    intro name hname
    obtain ⟨p, hp, rfl⟩ := List.mem_map.mp hname
    obtain ⟨w, hw, -⟩ := h p hp
    exact List.mem_map.mpr ⟨_, Dictionary.mem_of_get? hw, rfl⟩
  -- as many names on both sides, so those on the left are all
  apply (List.subperm_of_subset hkeys hsubset).perm_of_length_le
  simp only [Dictionary.keys, List.length_map, hlength, le_refl]

theorem same_entity_iff {typeName typeName' : String} {as bs : List (String × Value)}
    (has : (Dictionary.keys as).Nodup) (hbs : (Dictionary.keys bs).Nodup)
    (ih : ∀ p ∈ as, ∀ q ∈ bs, p.2.same q.2 ↔ p.2.meaning = q.2.meaning) :
    (Value.entity typeName as).same (.entity typeName' bs) ↔
      (Value.entity typeName as).meaning = (Value.entity typeName' bs).meaning := by
  simp only [same, meaning, Bool.and_eq_true, beq_iff_eq, Meaning.entity.injEq, funext_iff,
    attributeMeaning_eq, sameAttributes_iff, and_assoc]
  refine and_congr_right fun _ => ?_
  constructor
  · rintro ⟨hlength, hpartners⟩ name
    cases hv : Dictionary.get? as name with
    | some v =>
      have hmem := Dictionary.mem_of_get? hv
      obtain ⟨w, hw, hsame⟩ := hpartners _ hmem
      rw [hw, Option.map_some, Option.map_some,
        (ih _ hmem _ (Dictionary.mem_of_get? hw)).mp hsame]
    | none =>
      -- a name that is not on the left is not on the right either
      rw [Dictionary.get?_eq_none_iff,
        (keys_perm_of_partners has hlength hpartners).mem_iff] at hv
      rw [Dictionary.get?_eq_none_iff.mpr hv]
  · intro h
    constructor
    · -- the names are the same, since something stands under each
      have hnames (name : String) : name ∈ Dictionary.keys as ↔ name ∈ Dictionary.keys bs := by
        rw [← not_iff_not, ← Dictionary.get?_eq_none_iff, ← Dictionary.get?_eq_none_iff,
          ← Option.map_eq_none_iff, h name, Option.map_eq_none_iff]
      have hperm := (List.perm_ext_iff_of_nodup has hbs).mpr hnames
      simpa only [Dictionary.keys, List.length_map] using hperm.length_eq
    · intro p hp
      have hp_get : Dictionary.get? as p.1 = some p.2 := Dictionary.get?_of_mem has hp
      have hmeaning := h p.1
      rw [hp_get, Option.map_some] at hmeaning
      obtain ⟨w, hw, heq⟩ := Option.map_eq_some_iff.mp hmeaning.symm
      exact ⟨w, hw, (ih p hp _ (Dictionary.mem_of_get? hw)).mpr heq.symm⟩

theorem same_collection_iff {as bs : List Value}
    (ih : ∀ v ∈ as, ∀ w ∈ bs, v.same w ↔ v.meaning = w.meaning) :
    (Value.collection as).same (.collection bs) ↔
      (Value.collection as).meaning = (Value.collection bs).meaning := by
  simp only [same, meaning, Meaning.collection.injEq, itemMeanings_eq]
  induction as generalizing bs with
  | nil => cases bs <;> simp [sameItems]
  | cons v as ihItems =>
    cases bs with
    | nil => simp [sameItems]
    | cons w bs =>
      have hhead := ih v List.mem_cons_self w List.mem_cons_self
      have htail : sameItems as bs ↔ as.map meaning = bs.map meaning :=
        ihItems fun v hv w hw => ih v (List.mem_cons_of_mem _ hv) w (List.mem_cons_of_mem _ hw)
      rw [sameItems, Bool.and_eq_true, hhead, htail, List.map_cons, List.map_cons, List.cons.injEq]

/-- By induction on what the left value is made of. -/
theorem same_iff {v w : Value} (hv : v.IsWellFormed) (hw : w.IsWellFormed) :
    v.same w ↔ v.meaning = w.meaning := by
  induction hv generalizing w with
  | simple hv => exact same_iff_of_not_isComposite hv w
  | @entity typeName as has _ ih =>
    cases w with
    | entity typeName' bs =>
      obtain ⟨hbs, hvalues⟩ := isWellFormed_entity_iff.mp hw
      exact same_entity_iff has hbs fun p hp q hq => ih p hp (hvalues q hq)
    | _ => simp [same, meaning]
  | @collection as _ ih =>
    cases w with
    | collection bs =>
      have hitems := isWellFormed_collection_iff.mp hw
      exact same_collection_iff fun v hv w hw => ih v hv (hitems w hw)
    | _ => simp [same, meaning]

theorem kind_eq_of_same {v w : Value} (h : v.same w) : v.kind = w.kind := by
  cases v <;> cases w <;> simp_all [same, kind]

theorem same_comm {v w : Value} (hv : v.IsWellFormed) (hw : w.IsWellFormed) :
    v.same w = w.same v := by
  rw [Bool.eq_iff_iff, same_iff hv hw, same_iff hw hv]
  exact eq_comm

/-- Entities that stand for the same thing hold under each name what does. -/
theorem meaning_of_get? {typeName typeName' name : String} {as bs : List (String × Value)}
    {v w : Value}
    (h : (Value.entity typeName as).meaning = (Value.entity typeName' bs).meaning)
    (hv : Dictionary.get? as name = some v) (hw : Dictionary.get? bs name = some w) :
    v.meaning = w.meaning := by
  have hname := congrFun (Meaning.entity.inj h).2 name
  rw [attributeMeaning_eq, attributeMeaning_eq, hv, hw] at hname
  exact Option.some.inj hname

/-- Collections that stand for the same thing are as long and hold at each index what does. -/
theorem meaning_of_getElem? {as bs : List Value}
    (h : (Value.collection as).meaning = (Value.collection bs).meaning) :
    as.length = bs.length ∧ ∀ (i : Nat) (v w : Value), as[i]? = some v → bs[i]? = some w →
      v.meaning = w.meaning := by
  have hitems : as.map meaning = bs.map meaning := by
    rw [← itemMeanings_eq, ← itemMeanings_eq]
    exact Meaning.collection.inj h
  constructor
  · simpa only [List.length_map] using congrArg List.length hitems
  · intro i v w hv hw
    have hi := congrArg (fun items => items[i]?) hitems
    simp only [List.getElem?_map, hv, hw, Option.map_some] at hi
    exact Option.some.inj hi

theorem not_same_of_items {typeName typeName' name : String} {as bs : List (String × Value)}
    {xs ys : List Value} (has : (Value.entity typeName as).IsWellFormed)
    (hbs : (Value.entity typeName' bs).IsWellFormed)
    (hxs : Dictionary.get? as name = some (.collection xs))
    (hys : Dictionary.get? bs name = some (.collection ys))
    (h : xs.length ≠ ys.length ∨
      ∃ (i : Nat) (x y : Value), xs[i]? = some x ∧ ys[i]? = some y ∧ ¬ x.same y) :
    ¬ (Value.entity typeName as).same (.entity typeName' bs) := by
  rw [same_iff has hbs]
  intro hmeaning
  obtain ⟨hlength, hitems⟩ := meaning_of_getElem? (meaning_of_get? hmeaning hxs hys)
  rcases h with h | ⟨i, x, y, hx, hy, h⟩
  · exact h hlength
  · have hxs_wf := (isWellFormed_entity_iff.mp has).2 _ (Dictionary.mem_of_get? hxs)
    have hys_wf := (isWellFormed_entity_iff.mp hbs).2 _ (Dictionary.mem_of_get? hys)
    have hx_wf := isWellFormed_collection_iff.mp hxs_wf x (List.mem_of_getElem? hx)
    have hy_wf := isWellFormed_collection_iff.mp hys_wf y (List.mem_of_getElem? hy)
    exact h ((same_iff hx_wf hy_wf).mpr (hitems i x y hx hy))

/-! ## Variants -/

/-- The same value with the attributes of entities in another order or decimals at other scales, at
any depth. -/
inductive IsVariant : Value → Value → Prop
  | refl (v : Value) : IsVariant v v
  | trans {u v w : Value} (h : IsVariant u v) (h' : IsVariant v w) : IsVariant u w
  | rescaled {a b : Decimal} (h : a.toRat = b.toRat) : IsVariant (.decimal a) (.decimal b)
  | reordered {as bs : List (String × Value)} (typeName : String) (h : as.Perm bs) :
      IsVariant (.entity typeName as) (.entity typeName bs)
  | inAttribute {v w : Value} (h : IsVariant v w) (typeName name : String)
      (before after : List (String × Value)) :
      IsVariant (.entity typeName (before ++ (name, v) :: after))
        (.entity typeName (before ++ (name, w) :: after))
  | inItem {v w : Value} (h : IsVariant v w) (before after : List Value) :
      IsVariant (.collection (before ++ v :: after)) (.collection (before ++ w :: after))

theorem IsVariant.kind_eq {v w : Value} (h : v.IsVariant w) : v.kind = w.kind := by
  induction h with
  | refl => rfl
  | trans _ _ ih ih' => exact ih.trans ih'
  | rescaled | reordered | inAttribute | inItem => rfl

theorem IsVariant.isUnordered_eq {v w : Value} (h : v.IsVariant w) :
    v.isUnordered = w.isUnordered := by
  induction h with
  | refl => rfl
  | trans _ _ ih ih' => exact ih.trans ih'
  | rescaled | reordered | inAttribute | inItem => rfl

theorem IsVariant.isWellFormed {v w : Value} (h : v.IsVariant w) (hv : v.IsWellFormed) :
    w.IsWellFormed := by
  induction h with
  | refl => exact hv
  | trans _ _ ih ih' => exact ih' (ih hv)
  | rescaled => exact .simple Bool.false_ne_true
  | reordered typeName h =>
    obtain ⟨hkeys, hvalues⟩ := isWellFormed_entity_iff.mp hv
    exact .entity ((h.map _).nodup hkeys) fun p hp => hvalues p (h.mem_iff.mpr hp)
  | @inAttribute v w _ typeName name before after ih =>
    obtain ⟨hkeys, hvalues⟩ := isWellFormed_entity_iff.mp hv
    have hkeys_eq : Dictionary.keys (before ++ (name, w) :: after) =
        Dictionary.keys (before ++ (name, v) :: after) := by
      simp only [Dictionary.keys, List.map_append, List.map_cons]
    rw [List.forall_mem_append, List.forall_mem_cons] at hvalues
    rw [isWellFormed_entity_iff, hkeys_eq, List.forall_mem_append, List.forall_mem_cons]
    exact ⟨hkeys, hvalues.1, ih hvalues.2.1, hvalues.2.2⟩
  | inItem _ before after ih =>
    rw [isWellFormed_collection_iff, List.forall_mem_append, List.forall_mem_cons] at hv ⊢
    exact ⟨hv.1, ih hv.2.1, hv.2.2⟩

/-- Variants stand for the same thing. -/
theorem IsVariant.meaning_eq {v w : Value} (h : v.IsVariant w) (hv : v.IsWellFormed) :
    v.meaning = w.meaning := by
  induction h with
  | refl => rfl
  | trans h _ ih ih' =>
    -- the value in between is well-formed, as a variant of the first
    exact (ih hv).trans (ih' (h.isWellFormed hv))
  | rescaled h => exact congrArg Meaning.number h
  | @reordered as bs typeName h =>
    obtain ⟨hkeys, -⟩ := isWellFormed_entity_iff.mp hv
    apply congrArg (Meaning.entity typeName)
    funext name
    rw [attributeMeaning_eq, attributeMeaning_eq, Dictionary.get?_of_perm h hkeys]
  | @inAttribute v w _ typeName name before after ih =>
    obtain ⟨-, hvalues⟩ := isWellFormed_entity_iff.mp hv
    have hvw := ih (hvalues (name, v) (List.mem_append_right _ List.mem_cons_self))
    apply congrArg (Meaning.entity typeName)
    funext wanted
    simp only [attributeMeaning_append, attributeMeaning, hvw]
  | @inItem v w _ before after ih =>
    have hvw := ih (isWellFormed_collection_iff.mp hv v
      (List.mem_append_right _ List.mem_cons_self))
    simp only [meaning, itemMeanings_eq, List.map_append, List.map_cons, hvw]

/-- Equality does not tell variants apart. -/
theorem IsVariant.same_eq {v v' w w' : Value} (h : v.IsVariant v') (h' : w.IsVariant w')
    (hv : v.IsWellFormed) (hw : w.IsWellFormed) : v'.same w' = v.same w := by
  rw [Bool.eq_iff_iff, same_iff hv hw, same_iff (h.isWellFormed hv) (h'.isWellFormed hw),
    h.meaning_eq hv, h'.meaning_eq hw]

end Value

/-! ## The rule of equality -/

/-- A value that the rule of equality takes. -/
structure Value.IsEquatable (v : Value) : Prop where
  isUnordered : v.isUnordered
  isWellFormed : v.IsWellFormed

namespace ComparisonRule

variable {env : Environment} {ctx : Context} {leftType rightType : TypeDecl} {v w : Value}

theorem equality_equal (hv : v.isUnordered) (hkind : v.kind = w.kind) :
    equality.compare env ctx leftType rightType v w .equal = .ok (some (v.same w)) := by
  show unordered v w .equal = _
  rw [unordered, if_pos hv, if_pos ⟨hkind, rfl⟩, if_pos rfl]

theorem equality_notEqual (hv : v.isUnordered) (hkind : v.kind = w.kind) :
    equality.compare env ctx leftType rightType v w .notEqual = .ok (some (!v.same w)) := by
  show unordered v w .notEqual = _
  rw [unordered, if_pos hv, if_pos ⟨hkind, rfl⟩, if_neg ComparisonOperator.noConfusion]

theorem kind_eq_of_equality {op : ComparisonOperator} {answer : Truth}
    (h : equality.compare env ctx leftType rightType v w op = .ok answer) : v.kind = w.kind := by
  change unordered v w op = .ok answer at h
  unfold unordered at h
  split at h
  · split at h
    next hkind => exact hkind.1
    next => cases h
  · cases h

/-- Values are EQUAL if they stand for the same thing. -/
theorem equality_equal_iff (hv : v.IsEquatable) (hw : w.IsEquatable) :
    equality.compare env ctx leftType rightType v w .equal = .ok (some true) ↔
      v.meaning = w.meaning := by
  rw [← Value.same_iff hv.isWellFormed hw.isWellFormed]
  constructor
  · intro h
    rw [equality_equal hv.isUnordered (kind_eq_of_equality h)] at h
    exact Option.some.inj (Except.ok.inj h)
  · intro h
    rw [equality_equal hv.isUnordered (Value.kind_eq_of_same h), h]

end ComparisonRule

open ComparisonRule in
/-- **Equality.** The rule of equality answers EQUAL for booleans, constants and entities that stand
for the same thing, which is an equivalence on each kind. The answer stays the same where the
attributes of an entity come in another order or a decimal has another scale, at any depth; but
entities are not EQUAL if collections under a name differ in length or at an index. NOT_EQUAL is the
negation. -/
theorem equality_equivalence (env : Environment) (ctx : Context) (leftType rightType : TypeDecl) :
    (∀ v w : Value, v.IsEquatable → w.IsEquatable →
      (equality.compare env ctx leftType rightType v w .equal = .ok (some true) ↔
        v.meaning = w.meaning)) ∧
    (∀ v : Value, v.IsEquatable →
      equality.compare env ctx leftType rightType v v .equal = .ok (some true)) ∧
    (∀ v w : Value, v.IsEquatable → w.IsEquatable → v.kind = w.kind →
      equality.compare env ctx leftType rightType w v .equal =
        equality.compare env ctx leftType rightType v w .equal) ∧
    (∀ u v w : Value, u.IsEquatable → v.IsEquatable → w.IsEquatable →
      equality.compare env ctx leftType rightType u v .equal = .ok (some true) →
      equality.compare env ctx leftType rightType v w .equal = .ok (some true) →
      equality.compare env ctx leftType rightType u w .equal = .ok (some true)) ∧
    (∀ v v' w w' : Value, v.IsEquatable → w.IsEquatable → v.kind = w.kind → v.IsVariant v' →
      w.IsVariant w' →
      equality.compare env ctx leftType rightType v' w' .equal =
        equality.compare env ctx leftType rightType v w .equal) ∧
    (∀ (typeName typeName' name : String) (as bs : List (String × Value)) (xs ys : List Value),
      (Value.entity typeName as).IsEquatable → (Value.entity typeName' bs).IsEquatable →
      Dictionary.get? as name = some (.collection xs) →
      Dictionary.get? bs name = some (.collection ys) →
      (xs.length ≠ ys.length ∨
        ∃ (i : Nat) (x y : Value), xs[i]? = some x ∧ ys[i]? = some y ∧ ¬ x.same y) →
      equality.compare env ctx leftType rightType (.entity typeName as) (.entity typeName' bs)
        .equal = .ok (some false)) ∧
    (∀ v w : Value, v.isUnordered → v.kind = w.kind →
      ∃ b, equality.compare env ctx leftType rightType v w .equal = .ok (some b) ∧
        equality.compare env ctx leftType rightType v w .notEqual = .ok (some !b)) := by
  refine ⟨fun v w => equality_equal_iff, ?_, ?_, ?_, ?_, ?_, ?_⟩
  -- reflexive, symmetric and transitive, as equality of what the values stand for
  · intro v hv
    exact (equality_equal_iff hv hv).mpr rfl
  · intro v w hv hw hkind
    rw [equality_equal hv.isUnordered hkind, equality_equal hw.isUnordered hkind.symm,
      Value.same_comm hv.isWellFormed hw.isWellFormed]
  · intro u v w hu hv hw huv hvw
    rw [equality_equal_iff hu hv] at huv
    rw [equality_equal_iff hv hw] at hvw
    exact (equality_equal_iff hu hw).mpr (huv.trans hvw)
  -- variants are of one kind, so the rule answers for them too
  · intro v v' w w' hv hw hkind hvariant hvariant'
    have hkind' : v'.kind = w'.kind := by rw [← hvariant.kind_eq, hkind, hvariant'.kind_eq]
    have hunordered : v'.isUnordered := hvariant.isUnordered_eq ▸ hv.isUnordered
    rw [equality_equal hv.isUnordered hkind, equality_equal hunordered hkind',
      hvariant.same_eq hvariant' hv.isWellFormed hw.isWellFormed]
  · intro typeName typeName' name as bs xs ys has hbs hxs hys hdiffer
    have hnot := Value.not_same_of_items has.isWellFormed hbs.isWellFormed hxs hys hdiffer
    rw [equality_equal has.isUnordered (w := .entity typeName' bs) rfl,
      Bool.eq_false_iff.mpr hnot]
  · intro v w hv hkind
    exact ⟨v.same w, equality_equal hv hkind, equality_notEqual hv hkind⟩

def parcelType : TypeDecl := ⟨"Parcel", .entity, some .equality, none, none⟩

/-- A parcel of the weight 1.50000 that has been where the list says. -/
def parcel (stops : List Value) : Value :=
  .entity "Parcel" [
    ("weight", .decimal { Decimal.ofInt64 150000 with scale := 5, scale_le := by decide }),
    ("stops", .collection stops)]

/-- The parcel with its weight as 1.5000 and at the end. -/
def turnedParcel (stops : List Value) : Value :=
  .entity "Parcel" [
    ("stops", .collection stops),
    ("weight", .decimal { Decimal.ofInt64 15000 with scale := 4, scale_le := by decide })]

open ComparisonRule in
theorem parcels_equal :
    (parcel [.string "Oslo"]).IsEquatable ∧
      (parcel [.string "Oslo"]).IsVariant (turnedParcel [.string "Oslo"]) ∧
      equality.compare .utc .empty parcelType parcelType (parcel [.string "Oslo"])
        (turnedParcel [.string "Oslo"]) .equal = .ok (some true) ∧
      equality.compare .utc .empty parcelType parcelType (parcel [.string "Oslo"])
        (parcel []) .equal = .ok (some false) := by
  have hequatable (stops : List Value) (h : ∀ v ∈ stops, v.IsWellFormed) :
      (parcel stops).IsEquatable := by
    have hkeys : ["weight", "stops"].Nodup := by decide
    refine ⟨rfl, .entity hkeys ?_⟩
    simp only [List.forall_mem_cons, List.not_mem_nil, false_implies, implies_true, and_true]
    exact ⟨.simple (by decide), .collection h⟩
  have hvariant : (parcel [.string "Oslo"]).IsVariant (turnedParcel [.string "Oslo"]) := by
    apply Value.IsVariant.trans (.reordered _ (.swap ..))
    apply Value.IsVariant.inAttribute (.rescaled _) "Parcel" "weight" [_] []
    exact Decimal.toRat_eq_iff.mpr (by decide)
  have hparcel := hequatable [.string "Oslo"]
    (List.forall_mem_singleton.mpr (.simple Bool.false_ne_true))
  obtain ⟨-, hrefl, -, -, hvariants, hitems, -⟩ :=
    equality_equivalence .utc .empty parcelType parcelType
  refine ⟨hparcel, hvariant, ?_, ?_⟩
  · rw [hvariants _ _ _ _ hparcel hparcel rfl (.refl _) hvariant]
    exact hrefl _ hparcel
  · have hempty := hequatable [] (List.forall_mem_nil _)
    apply hitems _ _ "stops" _ _ [.string "Oslo"] [] hparcel hempty rfl rfl
    exact .inl (by decide)

end TypedExpr
