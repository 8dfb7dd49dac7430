import TypedExpr.Proofs.CalendarText
import TypedExpr.Proofs.DecimalText
import TypedExpr.Proofs.ExchangeContent

/-!
# Values read back from the exchange form

A value is read back from its text as an equal one, with the attributes of every entity in their
order; only the signs of zeros are lost. The reader refuses what is nested too deep for it, and of
the texts that are written nothing else.
-/

namespace TypedExpr

/-! ## Values that can be exchanged -/

namespace Value

mutual

/-- Whether the attributes of every entity have different names and every leap second ends its
minute. -/
def IsExchangeable : Value → Prop
  | .instant t => t.EndsMinute
  | .entity _ attributes =>
    (Dictionary.keys attributes).Nodup ∧ AreAttributesExchangeable attributes
  | .collection items => AreItemsExchangeable items
  | _ => True

def AreAttributesExchangeable : List (String × Value) → Prop
  | [] => True
  | (_, v) :: rest => v.IsExchangeable ∧ AreAttributesExchangeable rest

def AreItemsExchangeable : List Value → Prop
  | [] => True
  | v :: rest => v.IsExchangeable ∧ AreItemsExchangeable rest

end

mutual

/-- The value with no sign on a zero, at any depth. -/
def unsignZeros : Value → Value
  | .decimal d => .decimal d.unsignZero
  | .entity typeName attributes => .entity typeName (unsignAttributes attributes)
  | .collection items => .collection (unsignItems items)
  | v => v

def unsignAttributes : List (String × Value) → List (String × Value)
  | [] => []
  | (name, v) :: rest => (name, v.unsignZeros) :: unsignAttributes rest

def unsignItems : List Value → List Value
  | [] => []
  | v :: rest => v.unsignZeros :: unsignItems rest

end

mutual

/-- Whether entities at corresponding places have the same attributes in the same order, at any
depth. -/
def InOrder : Value → Value → Prop
  | .entity _ as, .entity _ bs => AttributesInOrder as bs
  | .collection as, .collection bs => ItemsInOrder as bs
  | _, _ => True

def AttributesInOrder : List (String × Value) → List (String × Value) → Prop
  | [], [] => True
  | (name, v) :: as, (name', w) :: bs => name = name' ∧ v.InOrder w ∧ AttributesInOrder as bs
  | _, _ => False

def ItemsInOrder : List Value → List Value → Prop
  | [], [] => True
  | v :: as, w :: bs => v.InOrder w ∧ ItemsInOrder as bs
  | _, _ => False

end

end Value

open Exchange

/-! ## Reading -/

namespace Value

theorem attributesToJson_eq (attributes : List (String × Value)) :
    attributesToJson attributes =
      (attributes.map fun (name, v) => (name, v.toJson)).map fun (name, j) => (some name, j) := by
  induction attributes with
  | nil => rfl
  | cons p rest ih =>
    rw [attributesToJson, ih]
    rfl

theorem keys_unsignAttributes (attributes : List (String × Value)) :
    Dictionary.keys (unsignAttributes attributes) = Dictionary.keys attributes := by
  induction attributes with
  | nil => rfl
  | cons p rest ih =>
    unfold Dictionary.keys at ih ⊢
    rw [unsignAttributes, List.map_cons, List.map_cons, ih]

mutual

/-- By induction on the value: items are read two levels down, and attributes three. -/
theorem ofJson?_toJson : ∀ v : Value, v.IsExchangeable → ∀ room : Nat,
    ofJson? false room v.toJson = if v.toJson.depth < room then some v.unsignZeros else none
  | .null, _, room => by
    rcases room with - | - | - | room <;> rfl
  | .boolean b, _, room => ofJson?_leaf .boolean (.boolean b) rfl (fun _ _ _ => rfl) room
  | .integer i, _, room => by
    refine ofJson?_leaf .integer (.ofInt i.toInt) rfl (fun _ _ _ => ?_) room
    rw [content?, integer?_ofInt64]
    rfl
  | .decimal d, _, room => by
    refine ofJson?_leaf .decimal (.ofString d.text) rfl (fun _ _ _ => ?_) room
    rw [content?, Json.ofString, decimal?, d.ofText?_text]
    rfl
  | .string s, _, room => ofJson?_leaf .string (.ofString s) rfl (fun _ _ _ => rfl) room
  | .date d, _, room => by
    refine ofJson?_leaf .date (.ofString d.text) rfl (fun _ _ _ => ?_) room
    rw [content?, Json.ofString, string?, Option.bind_some, d.ofText?_text]
    rfl
  | .instant t, h, room => by
    simp only [IsExchangeable] at h
    refine ofJson?_leaf .instant (.ofString t.zuluText) rfl (fun _ _ _ => ?_) room
    rw [content?, Json.ofString, string?, Option.bind_some, Instant.ofText?_zuluText h]
    rfl
  | .interval i, _, room => by
    refine ofJson?_tagged_eq .interval i.toJson (fun room hroom => ?_) room
    rw [content?, Interval.ofJson?_toJson, show i.toJson.depth = 1 from rfl]
    by_cases hinner : 2 ≤ room - 1
    · rw [if_pos hinner, if_pos (by omega)]
      rfl
    · rw [if_neg hinner, if_neg (by omega)]
      rfl
  | .enumeration typeName key, _, room => by
    refine ofJson?_tagged_eq .enumeration (ofConstant typeName key) (fun room hroom => ?_) room
    rw [content?, constant?_ofConstant, show (ofConstant typeName key).depth = 1 from rfl]
    by_cases hinner : 2 ≤ room - 1
    · rw [if_pos hinner, if_pos (by omega)]
      rfl
    · rw [if_neg hinner, if_neg (by omega)]
      rfl
  | .entity typeName attributes, h, room => by
    simp only [IsExchangeable] at h
    have hkeys : (Dictionary.keys (unsignAttributes attributes)).Nodup := by
      rw [keys_unsignAttributes]
      exact h.1
    refine ofJson?_tagged_eq .entity (ofEntity typeName (attributesToJson attributes))
      (fun room hroom => ?_) room
    rw [depth_ofEntity, content?, attributesToJson_eq, entity?_ofEntity, ← attributesToJson_eq]
    by_cases hinner : 3 ≤ room - 1
    · have hread := readContents_attributes attributes h.2 (show 0 < room - 3 by omega)
      rw [if_pos hinner, hread]
      by_cases hdepth : Json.memberDepth (attributesToJson attributes) < room - 3
      · rw [if_pos hdepth, if_pos (by omega), Option.map_some, Option.map_some,
          Dictionary.ofList_of_nodup hkeys]
        rfl
      · rw [if_neg hdepth, if_neg (by omega)]
        rfl
    · rw [if_neg hinner, if_neg (by omega)]
      rfl
  | .collection items, h, room => by
    simp only [IsExchangeable] at h
    refine ofJson?_tagged_eq .collection (.array (itemsToJson items)) (fun room hroom => ?_) room
    rw [Json.depth, content?, enter?_eq]
    by_cases hinner : 2 ≤ room - 1
    · have hread := mapM_items items h (show 0 < room - 2 by omega)
      rw [if_pos hinner, hread]
      by_cases hdepth : Json.itemDepth (itemsToJson items) < room - 2
      · rw [if_pos hdepth, if_pos (by omega)]
        rfl
      · rw [if_neg hdepth, if_neg (by omega)]
        rfl
    · rw [if_neg hinner, if_neg (by omega)]
      rfl

theorem readContents_attributes : ∀ attributes : List (String × Value),
    AreAttributesExchangeable attributes → ∀ {room : Nat}, 0 < room →
      readContents (ofJson? false room) (attributes.map fun (name, v) => (name, v.toJson)) =
        if Json.memberDepth (attributesToJson attributes) < room then
          some (unsignAttributes attributes)
        else none
  | [], _, room, hroom => by
    rw [attributesToJson, Json.memberDepth, if_pos hroom]
    rfl
  | (name, v) :: rest, h, room, hroom => by
    have hv : (ofJson? false room v.toJson).map (name, ·) =
        if v.toJson.depth < room then some (name, v.unsignZeros) else none := by
      rw [v.ofJson?_toJson h.1 room]
      split <;> rfl
    have hrest := readContents_attributes rest h.2 hroom
    unfold readContents at hrest ⊢
    rw [List.map_cons, List.mapM_cons, hrest, attributesToJson, Json.memberDepth]
    simp only [hv]
    exact cons_within

theorem mapM_items : ∀ items : List Value, AreItemsExchangeable items →
    ∀ {room : Nat}, 0 < room →
      (itemsToJson items).mapM (ofJson? false room) =
        if Json.itemDepth (itemsToJson items) < room then some (unsignItems items) else none
  | [], _, room, hroom => by
    rw [itemsToJson, Json.itemDepth, if_pos hroom]
    rfl
  | v :: rest, h, room, hroom => by
    have hv := v.ofJson?_toJson h.1 room
    have hrest := mapM_items rest h.2 hroom
    rw [itemsToJson, List.mapM_cons, hv, hrest, Json.itemDepth]
    exact cons_within

end

/-! ## Equality and order -/

mutual

theorem same_unsignZeros : ∀ v : Value, v.IsExchangeable → v.unsignZeros.same v
  | .null, _ => rfl
  | .boolean b, _ => beq_self_eq_true b
  | .integer i, _ => beq_self_eq_true i
  | .decimal d, _ => d.same_unsignZero
  | .string s, _ => beq_self_eq_true s
  | .date d, _ => beq_self_eq_true d
  | .instant t, _ => beq_self_eq_true t
  | .interval i, _ => beq_self_eq_true i
  | .enumeration typeName key, _ => by
    simp only [unsignZeros, same, beq_self_eq_true, Bool.and_self]
  | .entity typeName attributes, h => by
    simp only [IsExchangeable] at h
    have hlength : (unsignAttributes attributes).length = attributes.length := by
      have := congrArg List.length (keys_unsignAttributes attributes)
      simpa only [Dictionary.keys, List.length_map] using this
    have hattributes := sameAttributes_unsignAttributes attributes h.2 attributes
      fun name v hmem => Dictionary.get?_of_mem h.1 hmem
    simp only [unsignZeros, same, hlength, hattributes, beq_self_eq_true, Bool.and_self]
  | .collection items, h => by
    simp only [IsExchangeable] at h
    simp only [unsignZeros, same]
    exact sameItems_unsignItems items h

/-- Every attribute finds its partner under its name, since no other has that name. -/
theorem sameAttributes_unsignAttributes : ∀ attributes : List (String × Value),
    AreAttributesExchangeable attributes → ∀ whole : List (String × Value),
      (∀ name v, (name, v) ∈ attributes → Dictionary.get? whole name = some v) →
        sameAttributes (unsignAttributes attributes) whole
  | [], _, whole, _ => rfl
  | (name, v) :: rest, h, whole, hwhole => by
    have hv := v.same_unsignZeros h.1
    have hrest := sameAttributes_unsignAttributes rest h.2 whole
      fun name v hmem => hwhole name v (List.mem_cons_of_mem _ hmem)
    simp only [unsignAttributes, sameAttributes, hwhole name v List.mem_cons_self, hv, hrest,
      Bool.and_self]

theorem sameItems_unsignItems : ∀ items : List Value, AreItemsExchangeable items →
    sameItems (unsignItems items) items
  | [], _ => rfl
  | v :: rest, h => by
    simp only [unsignItems, sameItems, v.same_unsignZeros h.1, sameItems_unsignItems rest h.2,
      Bool.and_self]

end

mutual

theorem inOrder_unsignZeros : ∀ v : Value, v.unsignZeros.InOrder v
  | .null | .boolean _ | .integer _ | .decimal _ | .string _ | .date _ | .instant _ | .interval _
  | .enumeration _ _ => trivial
  | .entity _ attributes => inOrder_unsignAttributes attributes
  | .collection items => inOrder_unsignItems items

theorem inOrder_unsignAttributes : ∀ attributes : List (String × Value),
    AttributesInOrder (unsignAttributes attributes) attributes
  | [] => trivial
  | (_, v) :: rest => ⟨rfl, v.inOrder_unsignZeros, inOrder_unsignAttributes rest⟩

theorem inOrder_unsignItems : ∀ items : List Value, ItemsInOrder (unsignItems items) items
  | [] => trivial
  | v :: rest => ⟨v.inOrder_unsignZeros, inOrder_unsignItems rest⟩

end

/-! ## Texts -/

theorem isGrammatical_tagged (tag : String) {content : Json} (h : content.IsGrammatical) :
    (tagged tag content).IsGrammatical :=
  ⟨trivial, h, trivial⟩

theorem isGrammatical_ofInt (i : Int) : (Json.ofInt i).IsGrammatical :=
  Json.Number.isGrammatical_ofInt i

mutual

/-- The numbers that are written are integers. -/
theorem isGrammatical_toJson : ∀ v : Value, v.toJson.IsGrammatical
  | .null => ⟨trivial, trivial⟩
  | .boolean _ | .decimal _ | .string _ | .date _ | .instant _ => isGrammatical_tagged _ trivial
  | .integer i => isGrammatical_tagged _ (isGrammatical_ofInt i.toInt)
  | .interval _ =>
    isGrammatical_tagged _ ⟨isGrammatical_ofInt _, isGrammatical_ofInt _, isGrammatical_ofInt _,
      isGrammatical_ofInt _, isGrammatical_ofInt _, isGrammatical_ofInt _, trivial⟩
  | .enumeration _ _ => isGrammatical_tagged _ ⟨trivial, trivial, trivial⟩
  | .entity _ attributes =>
    isGrammatical_tagged _ ⟨trivial, areMembersGrammatical_attributesToJson attributes, trivial⟩
  | .collection items => isGrammatical_tagged _ (areItemsGrammatical_itemsToJson items)

theorem areMembersGrammatical_attributesToJson : ∀ attributes : List (String × Value),
    Json.AreMembersGrammatical (attributesToJson attributes)
  | [] => trivial
  | (_, v) :: rest => ⟨v.isGrammatical_toJson, areMembersGrammatical_attributesToJson rest⟩

theorem areItemsGrammatical_itemsToJson : ∀ items : List Value,
    Json.AreItemsGrammatical (itemsToJson items)
  | [] => trivial
  | v :: rest => ⟨v.isGrammatical_toJson, areItemsGrammatical_itemsToJson rest⟩

end

/-- The text of a value is read as far as there is room for it. -/
theorem ofJsonText?_text {v : Value} (h : v.IsExchangeable) :
    ofJsonText? v.toJson.text = if v.toJson.depth < fullRoom then some v.unsignZeros else none := by
  rw [ofJsonText?, Json.ofText?_text v.isGrammatical_toJson, Option.bind_some, v.ofJson?_toJson h]

end Value

/-- **Exchange.** The text of a value is read back as an equal value with the attributes of every
entity in their order, or it is nested too deep to be read at all. -/
theorem exchanged_same_inOrder (v : Value) (h : v.IsExchangeable) :
    (v.toJson.depth < fullRoom →
      ∃ w, Value.ofJsonText? v.toJson.text = some w ∧ w.same v ∧ w.InOrder v) ∧
    (fullRoom ≤ v.toJson.depth → Value.ofJsonText? v.toJson.text = none) := by
  rw [Value.ofJsonText?_text h]
  constructor
  · intro hdepth
    exact ⟨v.unsignZeros, if_pos hdepth, v.same_unsignZeros h, v.inOrder_unsignZeros⟩
  · intro hdepth
    exact if_neg (Nat.not_lt.mpr hdepth)

/-- An entity with a negative zero, a date before year 0, a leap second and a collection. -/
def ledger : Value :=
  .entity "Ledger"
    [("debt", .decimal { Decimal.zero.neg with scale := 2, scale_le := by decide }),
      ("founded", .date ⟨-16071, by decide, by decide⟩),
      ("closed",
        .instant ⟨⟨736328, by decide, by decide⟩, 86399, 1500000000, by decide, by decide⟩),
      ("notes", .collection [.string "\"paid\"", .null])]

theorem ledger_exchanged :
    ledger.IsExchangeable ∧ ledger.toJson.depth < fullRoom ∧
      ∃ w, Value.ofJsonText? ledger.toJson.text = some w ∧ w.same ledger ∧ w.InOrder ledger := by
  have hexchangeable : ledger.IsExchangeable :=
    ⟨by decide, trivial, trivial, fun _ => rfl, ⟨trivial, trivial, trivial⟩, trivial⟩
  have hdepth : ledger.toJson.depth < fullRoom := by decide
  exact ⟨hexchangeable, hdepth, (exchanged_same_inOrder ledger hexchangeable).1 hdepth⟩

end TypedExpr
