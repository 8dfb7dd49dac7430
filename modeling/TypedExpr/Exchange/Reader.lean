import TypedExpr.Decimal.Binary
import TypedExpr.Json.Reader
import TypedExpr.Operator
import TypedExpr.Value

/-!
# Values from JSON

The reader of the exchange form takes more than the writer writes: members in any order and unknown
ones, structures as arrays of their fields, tags as objects with one absent member, and decimals as
numbers. Arrays and objects may be nested 127 deep; ignored ones do not count. Content that stands
before its tag is taken in whole before the tag is known, so that a fault anywhere in it is refused
even where it would be ignored.

It stands for the derived reader of adjacently tagged alternatives, over a JSON reader whose
documented limit of recursion is 128.
-/

namespace TypedExpr

namespace Exchange

/-- The depth to which arrays and objects may be entered, plus one. -/
def fullRoom : Nat := 128

/-- The room inside an array or object that is entered. -/
def enter? : Nat → Option Nat
  | 0 | 1 => none
  | room + 2 => some (room + 1)

/-- The members of an object whose keys all have texts. -/
def members? (members : List (Json.Key × Json)) : Option (List (String × Json)) :=
  members.mapM fun (key, j) => key.map (·, j)

def numberIsReadable (n : Json.Number) : Bool := n.integer?.isSome || n.float?.isSome

mutual

/-- Whether content can be taken in before its tag is known: all its strings have texts, its
numbers are not too large, and it is not nested too deep. -/
def isReadable : Nat → Json → Bool
  | _, .null | _, .boolean _ => true
  | _, .number n => numberIsReadable n
  | _, .string s => s.isSome
  | 0, .array _ | 1, .array _ | 0, .object _ | 1, .object _ => false
  | room + 2, .array items => areItemsReadable (room + 1) items
  | room + 2, .object members => areMembersReadable (room + 1) members

def areItemsReadable : Nat → List Json → Bool
  | _, [] => true
  | room, j :: rest => isReadable room j && areItemsReadable room rest

def areMembersReadable : Nat → List (Json.Key × Json) → Bool
  | _, [] => true
  | room, (key, j) :: rest => key.isSome && isReadable room j && areMembersReadable room rest

end

/-- The name of a constant: a string, or the only key of an object with an absent member. Of
content that was taken in early an empty object counts as absent too. -/
def constantName? (early : Bool) (room : Nat) : Json → Option String
  | .string s => s
  | .object [(key, content)] => do
    let _ ← enter? room
    match content with
    | .null => key
    | .object [] => if early then key else none
    | _ => none
  | _ => none

/-- The fields of a structure, each given once under its name, or all of them in an array. -/
def fields? (names : List String) (room : Nat) : Json → Option (List Json)
  | .array items => do
    let _ ← enter? room
    if items.length = names.length then some items else none
  | .object members => do
    let _ ← enter? room
    let members ← members? members
    names.mapM fun name =>
      match members.filter (·.1 == name) with
      | [(_, j)] => some j
      | _ => none
  | _ => none

/-- A tag, the content if there is one, and whether that was taken in before the tag. -/
structure Tagged where
  tag : Json
  content : Option Json
  early : Bool
  deriving Repr

/-- Splits an object into its tag and its content, which may stand in any order among members that
are ignored; an array is the tag and the content. -/
def tagged? (early : Bool) (room : Nat) : Json → Option Tagged
  | .array [tag, content] => some ⟨tag, some content, early⟩
  | .object members => do
    let members ← members? members
    match members.filter fun (key, _) => key == "type" || key == "value" with
    | [("type", tag)] => some ⟨tag, none, early⟩
    | [("type", tag), ("value", content)] => some ⟨tag, some content, early⟩
    | [("value", content), ("type", tag)] =>
      -- what was taken in early around it has been checked with it
      if early || isReadable room content then some ⟨tag, some content, true⟩ else none
    | _ => none
  | _ => none

def string? : Json → Option String
  | .string s => s
  | _ => none

def integer? : Json → Option Int
  | .number n => n.integer?
  | _ => none

/-- A decimal as a string, or as a number: integers exactly, others by their shortest text. -/
def decimal? : Json → Option Decimal
  | .string (some s) => Decimal.ofText? s
  | .number n =>
    match n.integer? with
    | some i => Decimal.ofParts? (decide (i < 0)) i.natAbs 0
    | none => n.float?.bind fun f => Decimal.ofText? (Binary64.text f)
  | _ => none

end Exchange

open Exchange

def Interval.ofJson? (room : Nat) (j : Json) : Option Interval := do
  let fields ← fields? ["years", "months", "days", "hours", "minutes", "seconds"] room j
  match ← fields.mapM fun field => (integer? field).bind int32? with
  | [years, months, days, hours, minutes, seconds] =>
    some ⟨years, months, days, hours, minutes, seconds⟩
  | _ => none

namespace Exchange

/-- The type and the key of an enumeration constant. -/
def constant? (room : Nat) (j : Json) : Option (String × String) := do
  match ← fields? ["type_name", "key"] room j with
  | [typeName, key] => return (← string? typeName, ← string? key)
  | _ => none

/-- The type and the attributes of an entity, with `value` as the reader of attributes. -/
def entity? (value : Json → Option Value) (room : Nat) (j : Json) :
    Option (String × List (String × Value)) := do
  match ← fields? ["type_name", "attributes"] room j with
  | [typeName, .object members] =>
    let typeName ← string? typeName
    let _ ← enter? (room - 1)
    let pairs ← (← members? members).mapM fun (name, j) => (value j).map (name, ·)
    return (typeName, Dictionary.ofList pairs)
  | _ => none

/-- The content of a kind, with `item` as the reader of items and `value` as that of attributes. -/
def content? (item value : Json → Option Value) (room : Nat) (kind : ValueKind) (j : Json) :
    Option Value :=
  match kind with
  | .boolean =>
    match j with
    | .boolean b => some (.boolean b)
    | _ => none
  | .integer => ((integer? j).bind int64?).map .integer
  | .decimal => (decimal? j).map .decimal
  | .string => (string? j).map .string
  | .date => ((string? j).bind Date.ofText?).map .date
  | .instant => ((string? j).bind Instant.ofText?).map .instant
  | .interval => (Interval.ofJson? room j).map .interval
  | .enumeration => (constant? room j).map fun (typeName, key) => .enumeration typeName key
  | .entity => (entity? value room j).map fun (typeName, as) => .entity typeName as
  | .collection =>
    match j with
    | .array items => do
      let _ ← enter? room
      return .collection (← items.mapM item)
    | _ => none

/-- A value by its tag: the absent value has no content or an absent one, others must have theirs. -/
def value? (room : Nat) (t : Tagged) (early : Bool) (item value : Json → Option Value) :
    Option Value := do
  let name ← constantName? early room t.tag
  if name = "Null" then
    match t.content with
    | none | some .null => some .null
    | _ => none
  else content? item value room (← ValueKind.ofName? name) (← t.content)

end Exchange

namespace Value

/-- Reads a value with this much room; `early` says that it was taken in before a tag around it. -/
def ofJson? (early : Bool) : Nat → Json → Option Value
  | 0, _ | 1, _ => none
  | 2, j => do
    let t ← tagged? early 1 j
    value? 1 t early (fun _ => none) (fun _ => none)
  | room + 3, j => do
    let t ← tagged? early (room + 2) j
    value? (room + 2) t early (ofJson? t.early (room + 1)) (ofJson? t.early room)

end Value

/-! ## Texts -/

def Value.ofJsonText? (s : String) : Option Value :=
  (Json.ofText? s).bind (Value.ofJson? false fullRoom)

def Interval.ofJsonText? (s : String) : Option Interval :=
  (Json.ofText? s).bind (Interval.ofJson? fullRoom)

def ValueKind.ofJsonText? (s : String) : Option ValueKind :=
  ((Json.ofText? s).bind (constantName? false fullRoom)).bind ValueKind.ofName?

def ArithmeticOperator.ofJsonText? (s : String) : Option ArithmeticOperator :=
  ((Json.ofText? s).bind (constantName? false fullRoom)).bind ArithmeticOperator.ofTag?

def ComparisonOperator.ofJsonText? (s : String) : Option ComparisonOperator :=
  ((Json.ofText? s).bind (constantName? false fullRoom)).bind ComparisonOperator.ofTag?

/-- The type and the key of an enumeration constant. -/
def Exchange.constantOfText? (s : String) : Option (String × String) :=
  (Json.ofText? s).bind (constant? fullRoom)

/-- The type and the attributes of an entity; they are two levels down. -/
def Exchange.entityOfText? (s : String) : Option (String × List (String × Value)) :=
  (Json.ofText? s).bind (entity? (Value.ofJson? false (fullRoom - 2)) fullRoom)

end TypedExpr
