import TypedExpr.Json.Number

/-!
# JSON trees

Trees of JSON texts, with the members of objects in order and repeated ones kept. A string whose
escapes leave a surrogate without its partner has no text.

The modules on JSON stand for a package that reads and writes texts after RFC 8259: what it accepts,
which tree it sees and what it writes in compact form.
-/

namespace TypedExpr

/-- The text of a JSON string, if it has one. -/
abbrev Json.Key := Option String

inductive Json where
  | null
  | boolean (b : Bool)
  | number (n : Json.Number)
  | string (s : Json.Key)
  | array (items : List Json)
  | object (members : List (Json.Key × Json))
  deriving Repr

namespace Json

def ofString (s : String) : Json := .string (some s)

def ofInt (i : Int) : Json := .number (.ofInt i)

/-- The object with these members. -/
def ofMembers (members : List (String × Json)) : Json :=
  .object (members.map fun (key, j) => (some key, j))

end Json

end TypedExpr
