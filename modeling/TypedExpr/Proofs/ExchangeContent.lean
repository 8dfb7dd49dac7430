import TypedExpr.Exchange.Reader
import TypedExpr.Exchange.Writer
import TypedExpr.Proofs.JsonText

/-!
# Contents of the exchange form

What is written under a tag is read by its kind, if there is room for the arrays and objects in it:
an interval and a constant take one level below the tag, the items of a collection start one level
below it, and the attributes of an entity two.
-/

namespace TypedExpr

/-! ## Depth -/

namespace Json

mutual

/-- How deep arrays and objects are nested. -/
def depth : Json → Nat
  | .null | .boolean _ | .number _ | .string _ => 0
  | .array items => itemDepth items + 1
  | .object members => memberDepth members + 1

def itemDepth : List Json → Nat
  | [] => 0
  | j :: rest => max j.depth (itemDepth rest)

def memberDepth : List (Key × Json) → Nat
  | [] => 0
  | (_, j) :: rest => max j.depth (memberDepth rest)

end

end Json

namespace Exchange

theorem depth_tagged (tag : String) (content : Json) :
    (tagged tag content).depth = content.depth + 1 := by
  simp only [tagged, Json.ofMembers, Json.ofString, List.map_cons, List.map_nil, Json.depth,
    Json.memberDepth, Nat.max_zero, Nat.zero_max]

theorem depth_ofEntity (typeName : String) (attributes : List (Json.Key × Json)) :
    (ofEntity typeName attributes).depth = Json.memberDepth attributes + 2 := by
  simp only [ofEntity, Json.ofMembers, Json.ofString, List.map_cons, List.map_nil, Json.depth,
    Json.memberDepth, Nat.max_zero, Nat.zero_max]

/-! ## Objects -/

theorem enter?_eq (room : Nat) : enter? room = if 2 ≤ room then some (room - 1) else none := by
  rcases room with - | - | room <;> rfl

theorem members?_ofMembers (members : List (String × Json)) :
    members? (members.map fun (key, j) => (some key, j)) = some members := by
  induction members with
  | nil => rfl
  | cons p rest ih =>
    unfold members? at ih ⊢
    rw [List.map_cons, List.mapM_cons, ih]
    rfl

/-- The only member of its name is found under it. -/
theorem filter_of_nodup {members : List (String × Json)} (h : (members.map Prod.fst).Nodup)
    {name : String} {j : Json} (hmem : (name, j) ∈ members) :
    members.filter (·.1 == name) = [(name, j)] := by
  induction members with
  | nil => cases hmem
  | cons p rest ih =>
    obtain ⟨key, content⟩ := p
    simp only [List.map_cons, List.nodup_cons] at h
    rcases List.mem_cons.mp hmem with heq | hmem
    · cases heq
      have hrest : rest.filter (·.1 == name) = [] := by
        rw [List.filter_eq_nil_iff]
        intro p hp hname
        exact h.1 (beq_iff_eq.mp hname ▸ List.mem_map_of_mem hp)
      simp only [List.filter_cons, beq_self_eq_true, if_true, hrest]
    · have hne : ¬(key == name) = true := fun hname =>
        h.1 (beq_iff_eq.mp hname ▸ List.mem_map_of_mem hmem)
      simp only [List.filter_cons, if_neg hne, ih h.2 hmem]

/-- Looking up every name gives the contents in order, if each lookup gives its own. -/
theorem mapM_names {find : String → Option Json} {members : List (String × Json)}
    (h : ∀ p ∈ members, find p.1 = some p.2) :
    (members.map Prod.fst).mapM find = some (members.map Prod.snd) := by
  induction members with
  | nil => rfl
  | cons p rest ih =>
    rw [List.map_cons, List.mapM_cons, h p List.mem_cons_self,
      ih fun p hp => h p (List.mem_cons_of_mem _ hp)]
    rfl

/-- The fields of a structure are found under their names, if there is room to enter it. -/
theorem fields?_ofMembers {names : List String} {members : List (String × Json)}
    (hnames : members.map Prod.fst = names) (h : names.Nodup) (room : Nat) :
    fields? names room (.ofMembers members) =
      if 2 ≤ room then some (members.map Prod.snd) else none := by
  subst hnames
  simp only [fields?, Json.ofMembers, enter?_eq]
  split
  next =>
    simp only [Option.bind_eq_bind, Option.bind_some, members?_ofMembers]
    exact mapM_names fun p hp => by simp only [filter_of_nodup h hp]
  next => rfl

/-- Content under a tag, with the tag in front. -/
theorem tagged?_tagged (room : Nat) (tag : String) (content : Json) :
    tagged? false room (tagged tag content) = some ⟨.ofString tag, some content, false⟩ := rfl

end Exchange

open Exchange

/-! ## Contents -/

section Contents

variable (room : Nat)

theorem integer?_ofInt64 (i : Int64) :
    (Exchange.integer? (.ofInt i.toInt)).bind int64? = some i := by
  have hread : Exchange.integer? (.ofInt i.toInt) = some i.toInt :=
    Json.Number.integer?_ofInt i.le_toInt (Int.lt_trans i.toInt_lt (by decide))
  rw [hread]
  exact int64?_eq_some_iff.mpr rfl

theorem integer?_ofInt32 (i : Int32) :
    (Exchange.integer? (.ofInt i.toInt)).bind int32? = some i := by
  have hlow := i.le_toInt
  have hhigh := i.toInt_lt
  have hread : Exchange.integer? (.ofInt i.toInt) = some i.toInt :=
    Json.Number.integer?_ofInt (by omega) (by omega)
  rw [hread]
  exact int32?_eq_some_iff.mpr rfl

theorem Interval.ofJson?_toJson (i : Interval) :
    Interval.ofJson? room i.toJson = if 2 ≤ room then some i else none := by
  rw [Interval.ofJson?, Interval.toJson, fields?_ofMembers (by rfl) (by decide)]
  split
  next =>
    simp only [Option.bind_eq_bind, Option.bind_some, List.map_cons, List.map_nil, List.mapM_cons,
      List.mapM_nil, integer?_ofInt32]
    rfl
  next => rfl

theorem constant?_ofConstant (typeName key : String) :
    constant? room (ofConstant typeName key) = if 2 ≤ room then some (typeName, key) else none := by
  rw [constant?, ofConstant, fields?_ofMembers (by rfl) (by decide)]
  split <;> rfl

/-- The members with their contents read. -/
def readContents (value : Json → Option Value) (members : List (String × Json)) :
    Option (List (String × Value)) :=
  members.mapM fun (name, j) => (value j).map (name, ·)

/-- The attributes of an entity are two levels down. -/
theorem entity?_ofEntity (value : Json → Option Value) (typeName : String)
    (members : List (String × Json)) :
    entity? value room (ofEntity typeName (members.map fun (name, j) => (some name, j))) =
      if 3 ≤ room then
        (readContents value members).map fun attributes =>
          (typeName, Dictionary.ofList attributes)
      else none := by
  rw [entity?, ofEntity, fields?_ofMembers (by rfl) (by decide)]
  split
  next hroom =>
    simp only [Json.ofString, string?, List.map_cons, List.map_nil, Option.bind_eq_bind,
      Option.bind_some, members?_ofMembers, enter?_eq]
    by_cases hroom' : 3 ≤ room
    · rw [if_pos hroom', if_pos (by omega)]
      show (readContents value members).bind _ = _
      cases readContents value members <;> rfl
    · rw [if_neg hroom', if_neg (by omega)]
      rfl
  next hroom =>
    rw [if_neg (by omega)]
    rfl

/-- A list is read if its first element and the others are: if the deepest of them has room. -/
theorem cons_within {α : Type} {depth depths room : Nat} {a : α} {as : List α} :
    ((if depth < room then some a else none).bind fun a =>
      (if depths < room then some as else none).bind fun as => some (a :: as)) =
      if max depth depths < room then some (a :: as) else none := by
  by_cases hdepth : depth < room
  · by_cases hdepths : depths < room
    · rw [if_pos hdepth, if_pos hdepths, if_pos (Nat.max_lt.mpr ⟨hdepth, hdepths⟩)]
      rfl
    · rw [if_pos hdepth, if_neg hdepths, if_neg fun h => hdepths (Nat.max_lt.mp h).2]
      rfl
  · rw [if_neg hdepth, if_neg fun h => hdepth (Nat.max_lt.mp h).1]
    rfl

end Contents

/-! ## Values by their kinds -/

namespace Value

/-- One level of reading; below the lowest room the readers of what is inside read nothing. -/
theorem ofJson?_eq {room : Nat} (hroom : 2 ≤ room) (j : Json) :
    ofJson? false room j = (do
      let t ← tagged? false (room - 1) j
      value? (room - 1) t false (ofJson? t.early (room - 2)) (ofJson? t.early (room - 3))) := by
  rcases room with - | - | - | room
  · cases hroom
  · omega
  · have hnone (early : Bool) : ofJson? early 0 = fun _ => none := by
      funext j
      rfl
    rw [ofJson?]
    simp only [Nat.reduceAdd, Nat.reduceSub, hnone]
  · rfl

/-- Tagged content is read by its kind. -/
theorem ofJson?_tagged {room : Nat} (hroom : 2 ≤ room) (k : ValueKind) (content : Json) :
    ofJson? false room (tagged k.name content) =
      content? (ofJson? false (room - 2)) (ofJson? false (room - 3)) (room - 1) k content := by
  have hname : k.name ≠ "Null" := by cases k <;> decide
  have hconstant : constantName? false (room - 1) (.ofString k.name) = some k.name := rfl
  rw [ofJson?_eq hroom, tagged?_tagged]
  simp only [Option.bind_eq_bind, Option.bind_some, value?, hconstant, if_neg hname,
    ValueKind.ofName?_name]

/-- A kind whose content is read as `w` where there is room for it. -/
theorem ofJson?_tagged_eq (k : ValueKind) (content : Json) {w : Value}
    (h : ∀ room, 2 ≤ room →
      content? (ofJson? false (room - 2)) (ofJson? false (room - 3)) (room - 1) k content =
        if content.depth + 1 < room then some w else none) (room : Nat) :
    ofJson? false room (tagged k.name content) =
      if (tagged k.name content).depth < room then some w else none := by
  rw [depth_tagged]
  by_cases hroom : 2 ≤ room
  · rw [ofJson?_tagged hroom, h room hroom]
  · rw [if_neg (by omega)]
    rcases room with - | - | room
    · rfl
    · rfl
    · omega

/-- A kind whose content has no arrays or objects. -/
theorem ofJson?_leaf (k : ValueKind) (content : Json) {w : Value} (hdepth : content.depth = 0)
    (h : ∀ item value room, content? item value room k content = some w) (room : Nat) :
    ofJson? false room (tagged k.name content) =
      if (tagged k.name content).depth < room then some w else none := by
  refine ofJson?_tagged_eq k content (fun room hroom => ?_) room
  rw [h, hdepth, if_pos (by omega)]

end Value

end TypedExpr
