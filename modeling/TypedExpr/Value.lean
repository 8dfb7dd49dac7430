import TypedExpr.Calendar.Text
import TypedExpr.Calendar.Interval
import TypedExpr.Decimal.Text
import TypedExpr.Dictionary

/-!
# Values

The values that expressions are evaluated to. `null` is the absent value, which predicates treat
as unknown. An entity holds its attributes as an insertion-ordered dictionary.
-/

namespace TypedExpr

inductive Value where
  | null
  | boolean (b : Bool)
  | integer (i : Int64)
  | decimal (d : Decimal)
  | string (s : String)
  | date (d : Date)
  | instant (t : Instant)
  | interval (i : Interval)
  | enumeration (typeName key : String)
  | entity (typeName : String) (attributes : List (String × Value))
  | collection (items : List Value)
  deriving Repr

/-- The kinds of present values. -/
inductive ValueKind where
  | boolean
  | integer
  | decimal
  | string
  | date
  | instant
  | interval
  | enumeration
  | entity
  | collection
  deriving DecidableEq, Repr

namespace ValueKind

def all : List ValueKind :=
  [.boolean, .integer, .decimal, .string, .date, .instant, .interval, .enumeration, .entity,
    .collection]

def name : ValueKind → String
  | .boolean => "Boolean"
  | .integer => "Integer"
  | .decimal => "Decimal"
  | .string => "String"
  | .date => "Date"
  | .instant => "Instant"
  | .interval => "Interval"
  | .enumeration => "Enum"
  | .entity => "Entity"
  | .collection => "Collection"

def ofName? (s : String) : Option ValueKind := all.find? (·.name == s)

theorem mem_all (k : ValueKind) : k ∈ all := by
  cases k <;> decide

theorem ofName?_name (k : ValueKind) : ofName? k.name = some k := by
  cases k <;> decide

end ValueKind

/-- A truth value; `none` is unknown. -/
abbrev Truth := Option Bool

namespace Value

def isNull : Value → Bool
  | .null => true
  | _ => false

def isTrue : Value → Bool
  | .boolean b => b
  | _ => false

def kind : Value → Option ValueKind
  | .null => none
  | .boolean _ => some .boolean
  | .integer _ => some .integer
  | .decimal _ => some .decimal
  | .string _ => some .string
  | .date _ => some .date
  | .instant _ => some .instant
  | .interval _ => some .interval
  | .enumeration .. => some .enumeration
  | .entity .. => some .entity
  | .collection _ => some .collection

/-- The kind's name for diagnostics; the absent value has one too. -/
def kindName (v : Value) : String := (v.kind.map ValueKind.name).getD "Null"

def asBoolean? : Value → Option Bool
  | .boolean b => some b
  | _ => none

def asInteger? : Value → Option Int64
  | .integer i => some i
  | _ => none

/-- The number of a numeric value. -/
def asDecimal? : Value → Option Decimal
  | .integer i => some (.ofInt64 i)
  | .decimal d => some d
  | _ => none

def isNumeric (v : Value) : Bool := v.asDecimal?.isSome

def asString? : Value → Option String
  | .string s => some s
  | _ => none

def asCollection? : Value → Option (List Value)
  | .collection items => some items
  | _ => none

/-- Unknown is the absent value. -/
def ofTruth : Truth → Value
  | none => .null
  | some b => .boolean b

/-- The decimal that a text denotes, absent if there is none. -/
def ofDecimalText (s : String) : Value := ((Decimal.ofText? s).map .decimal).getD .null

mutual

/-- Equality of values: decimals as numbers, entities whatever the order of their attributes. -/
def same : Value → Value → Bool
  | .null, .null => true
  | .boolean a, .boolean b => a == b
  | .integer a, .integer b => a == b
  | .decimal a, .decimal b => a.same b
  | .string a, .string b => a == b
  | .date a, .date b => a == b
  | .instant a, .instant b => a == b
  | .interval a, .interval b => a == b
  | .enumeration t k, .enumeration t' k' => t == t' && k == k'
  -- with equal counts a partner for each attribute makes the dictionaries equal
  | .entity t as, .entity t' bs => t == t' && as.length == bs.length && sameAttributes as bs
  | .collection as, .collection bs => sameItems as bs
  | _, _ => false

/-- Whether every attribute has an equal partner under its name. -/
def sameAttributes : List (String × Value) → List (String × Value) → Bool
  | [], _ => true
  | (name, v) :: rest, bs =>
    (match Dictionary.get? bs name with
      | some w => v.same w
      | none => false) && sameAttributes rest bs

/-- Whether two lists are equal item by item. -/
def sameItems : List Value → List Value → Bool
  | [], [] => true
  | a :: as, b :: bs => a.same b && sameItems as bs
  | _, _ => false

end

/-- The text of an entity around the texts of its attributes. -/
def entityText (typeName : String) (attributes : List String) : String :=
  typeName ++ " \x7b" ++ ",".intercalate attributes ++ " \x7d"

mutual

/-- The display text. -/
def text : Value → String
  | .null => "null"
  | .boolean b => if b then "true" else "false"
  | .integer i => String.ofList (Text.signed i.toInt)
  | .decimal d => d.text
  | .string s => s
  | .date d => d.text
  | .instant t => t.text
  | .interval i => i.text
  | .enumeration typeName key => typeName ++ "." ++ key
  | .entity typeName attributes => entityText typeName (attributeTexts attributes)
  | .collection items => "[" ++ ", ".intercalate (itemTexts items) ++ "]"

def attributeTexts : List (String × Value) → List String
  | [] => []
  | (name, v) :: rest => (" " ++ name ++ ": " ++ v.text) :: attributeTexts rest

def itemTexts : List Value → List String
  | [] => []
  | v :: rest => v.text :: itemTexts rest

end

/-- The value as diagnostics show it: its kind and its text. -/
def diagnosticText (v : Value) : String :=
  if v.isNull then "null" else v.kindName ++ " " ++ v.text

end Value

/-- An entity by itself: its type and its attributes. -/
structure Entity where
  typeName : String
  attributes : List (String × Value)
  deriving Repr

namespace Entity

/-- An entity without attributes. -/
def ofType (typeName : String) : Entity := ⟨typeName, []⟩

/-- Sets an attribute. One that is new comes last, and one that is there keeps its place. -/
def set (e : Entity) (name : String) (v : Value) : Entity :=
  { e with attributes := Dictionary.insert e.attributes name v }

def get? (e : Entity) (name : String) : Option Value := Dictionary.get? e.attributes name

/-- The entity whose attributes are set in order. -/
def ofList (typeName : String) (settings : List (String × Value)) : Entity :=
  settings.foldl (fun e p => e.set p.1 p.2) (ofType typeName)

def toValue (e : Entity) : Value := .entity e.typeName e.attributes

def text (e : Entity) : String := e.toValue.text

end Entity

end TypedExpr
