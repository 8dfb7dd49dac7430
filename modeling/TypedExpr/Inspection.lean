import TypedExpr.Evaluation
import TypedExpr.Text.Quoted

/-!
# Inspection texts

Texts that show the structure of values and declarations: names of constructors and fields, with
strings in quotes. Of a capability slot they show only whether it is filled.
-/

namespace TypedExpr

namespace Inspection

open Text (quote)

def ofBool (b : Bool) : String := if b then "true" else "false"

def ofFilled {α : Type} (slot : Option α) : String := ofBool slot.isSome

def ofOption : Option String → String
  | none => "None"
  | some s => "Some(" ++ s ++ ")"

def ofList (items : List String) : String := "[" ++ ", ".intercalate items ++ "]"

/-- Fields between braces behind a name. -/
def ofRecord (name : String) (fields : List (String × String)) : String :=
  name ++ " \x7b " ++ ", ".intercalate (fields.map fun (field, s) => field ++ ": " ++ s) ++ " \x7d"

/-- Entries between braces. -/
def ofEntries (entries : List String) : String := "\x7b" ++ ", ".intercalate entries ++ "\x7d"

end Inspection

open Inspection
open Text (quote)

def Interval.inspect (i : Interval) : String :=
  let part (n : Int32) : String := String.ofList (Text.signed n.toInt)
  ofRecord "TemporalInterval"
    [("years", part i.years), ("months", part i.months), ("days", part i.days),
      ("hours", part i.hours), ("minutes", part i.minutes), ("seconds", part i.seconds)]

namespace Value

mutual

def inspect : Value → String
  | .null => "Null"
  | .boolean b => "Boolean(" ++ ofBool b ++ ")"
  | .integer i => "Integer(" ++ String.ofList (Text.signed i.toInt) ++ ")"
  | .decimal d => "Decimal(" ++ d.text ++ ")"
  | .string s => "String(" ++ quote s ++ ")"
  | .date d => "Date(" ++ d.text ++ ")"
  | .instant t => "Instant(" ++ t.zuluText ++ ")"
  | .interval i => "Interval(" ++ i.inspect ++ ")"
  | .enumeration typeName key =>
    "Enum(" ++ ofRecord "EnumValue" [("type_name", quote typeName), ("key", quote key)] ++ ")"
  | .entity typeName attributes =>
    "Entity(" ++ ofRecord "EntityValue"
      [("type_name", quote typeName), ("attributes", ofEntries (inspectAttributes attributes))]
      ++ ")"
  | .collection items => "Collection(" ++ Inspection.ofList (inspectItems items) ++ ")"

def inspectAttributes : List (String × Value) → List String
  | [] => []
  | (name, v) :: rest => (quote name ++ ": " ++ v.inspect) :: inspectAttributes rest

def inspectItems : List Value → List String
  | [] => []
  | v :: rest => v.inspect :: inspectItems rest

end

end Value

def TypeDecl.inspect (t : TypeDecl) : String :=
  ofRecord "DomainType"
    [("name", quote t.name), ("kind", t.kind.name),
      ("element_type", ofOption (t.element?.map fun e => quote e.name)),
      ("comparison", ofFilled t.comparison), ("arithmetic", ofFilled t.arithmetic),
      ("adapter", ofFilled t.adapter)]

def Attribute.inspect (a : Attribute) : String :=
  ofRecord "EntityAttribute"
    [("owner", quote a.owner), ("name", quote a.name), ("domain_type", quote a.type.name),
      ("accessor", ofFilled a.accessor), ("adapter", ofFilled a.adapter)]

def Parameter.inspect (p : Parameter) : String :=
  ofRecord "DomainFunctionArgument"
    [("name", quote p.name), ("position", toString p.position),
      ("domain_type", quote p.type.name), ("adapter", ofFilled p.adapter)]

def FunctionDecl.inspect (f : FunctionDecl) : String :=
  ofRecord "DomainFunction"
    [("name", quote f.name), ("arguments", Inspection.ofList (f.parameters.map (·.inspect))),
      ("result_type", quote f.resultType.name), ("invoker", ofFilled f.invoker),
      ("result_adapter", ofFilled f.resultAdapter)]

def Model.inspect (m : Model) : String :=
  ofRecord "DomainModel"
    [("types", Inspection.ofList ((Dictionary.keys m.types).map quote)),
      ("attributes", toString m.attributes.length),
      ("functions", Inspection.ofList ((Dictionary.keys m.functions).map quote)),
      ("converters", toString m.converters.size)]

def Adapted.inspect (e : Adapted) : String :=
  ofRecord "Evaluated" [("value", e.value.inspect), ("adapter", ofFilled e.adapter)]

end TypedExpr
