import TypedExpr.Json.Printer
import TypedExpr.Operator
import TypedExpr.Value

/-!
# Values as JSON

The form in which values are exchanged: an object with the kind under "type" and the content under
"value". Decimals, dates and instants are strings; the absent value has no content.

It stands for the form that a serialization package derives for adjacently tagged alternatives, a
tag beside its content, and for structures, objects of their fields in order.
-/

namespace TypedExpr

namespace Exchange

/-- Content under the name of its kind. -/
def tagged (tag : String) (content : Json) : Json :=
  .ofMembers [("type", .ofString tag), ("value", content)]

end Exchange

open Exchange

def Interval.toJson (i : Interval) : Json :=
  .ofMembers
    [("years", .ofInt i.years.toInt), ("months", .ofInt i.months.toInt),
      ("days", .ofInt i.days.toInt), ("hours", .ofInt i.hours.toInt),
      ("minutes", .ofInt i.minutes.toInt), ("seconds", .ofInt i.seconds.toInt)]

/-- An enumeration constant with its type. -/
def Exchange.ofConstant (typeName key : String) : Json :=
  .ofMembers [("type_name", .ofString typeName), ("key", .ofString key)]

/-- An entity of this type with the attributes. -/
def Exchange.ofEntity (typeName : String) (attributes : List (Json.Key × Json)) : Json :=
  .ofMembers [("type_name", .ofString typeName), ("attributes", .object attributes)]

def ValueKind.toJson (k : ValueKind) : Json := .ofString k.name

def ArithmeticOperator.toJson (op : ArithmeticOperator) : Json := .ofString op.tag

def ComparisonOperator.toJson (op : ComparisonOperator) : Json := .ofString op.tag

namespace Value

mutual

def toJson : Value → Json
  | .null => .ofMembers [("type", .ofString "Null")]
  | .boolean b => tagged "Boolean" (.boolean b)
  | .integer i => tagged "Integer" (.ofInt i.toInt)
  | .decimal d => tagged "Decimal" (.ofString d.text)
  | .string s => tagged "String" (.ofString s)
  | .date d => tagged "Date" (.ofString d.text)
  | .instant t => tagged "Instant" (.ofString t.zuluText)
  | .interval i => tagged "Interval" i.toJson
  | .enumeration typeName key => tagged "Enum" (ofConstant typeName key)
  | .entity typeName attributes => tagged "Entity" (ofEntity typeName (attributesToJson attributes))
  | .collection items => tagged "Collection" (.array (itemsToJson items))

def attributesToJson : List (String × Value) → List (Json.Key × Json)
  | [] => []
  | (name, v) :: rest => (some name, v.toJson) :: attributesToJson rest

def itemsToJson : List Value → List Json
  | [] => []
  | v :: rest => v.toJson :: itemsToJson rest

end

end Value

end TypedExpr
