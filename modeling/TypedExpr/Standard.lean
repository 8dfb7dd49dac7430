import TypedExpr.Model

/-!
# The standard model

The types, functions and converters that most hosts start from: eight scalar types with a
collection type over each of them, four functions, and converters between the kinds.
-/

namespace TypedExpr.Standard

def boolean : TypeDecl := ⟨"Boolean", .basic, some .equality, none, some .identity⟩

def integer : TypeDecl := ⟨"Integer", .basic, some .numeric, some .numeric, none⟩

def decimal : TypeDecl := ⟨"Decimal", .basic, some .numeric, some .numeric, none⟩

def string : TypeDecl := ⟨"String", .basic, some .string, some .string, none⟩

/-- Calendar dates that meet instants at the start of the day in UTC. -/
def date : TypeDecl := ⟨"Date", .basic, some .date, some .date, none⟩

/-- Calendar dates that meet instants at the start of the day in the system's zone. -/
def localDate : TypeDecl := ⟨"LocalDate", .basic, some .localDate, some .localDate, none⟩

def timestamp : TypeDecl := ⟨"Timestamp", .basic, some .timestamp, some .timestamp, none⟩

def interval : TypeDecl := ⟨"Interval", .basic, some .interval, some .interval, none⟩

def scalars : List TypeDecl :=
  [boolean, integer, decimal, string, date, localDate, timestamp, interval]

/-- The collection type over an element type. -/
def collectionOf (element : TypeDecl) : TypeDecl :=
  .bare ("Collection<" ++ element.name ++ ">") (.collection element)

def lower : FunctionDecl :=
  { (FunctionDecl.declare "LOWER" string).withParameter "string" string none with
    invoker := some .lower }

def upper : FunctionDecl :=
  { (FunctionDecl.declare "UPPER" string).withParameter "string" string none with
    invoker := some .upper }

def power : FunctionDecl :=
  { ((FunctionDecl.declare "POW" decimal).withParameter "base" decimal none).withParameter
      "power" decimal none with
    invoker := some .power }

def size : FunctionDecl :=
  { (FunctionDecl.declare "SIZE" integer).withParameter "collection" (collectionOf integer)
      none with
    invoker := some .size }

/-- The kinds whose display texts serve as strings. -/
def textKinds : List ValueKind :=
  [.boolean, .integer, .decimal, .date, .instant, .interval, .enumeration]

def converters : List (ValueKind × ValueKind × Converter) :=
  [(.integer, .decimal, .integerToDecimal), (.date, .instant, .dateToInstant),
    (.instant, .date, .instantToDate)] ++ textKinds.map (·, .string, .display)

/-- Each collection type stands before its element type. -/
def model : Model :=
  let types := scalars.flatMap fun t => [collectionOf t, t]
  let m := types.foldl Model.addType .empty
  let m := [lower, upper, power, size].foldl Model.addFunction m
  converters.foldl (fun m (source, target, c) => m.addConverter source target c) m

end TypedExpr.Standard
