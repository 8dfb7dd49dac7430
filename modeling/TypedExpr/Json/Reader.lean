import TypedExpr.Json.Basic
import TypedExpr.Json.Escape

/-!
# Reading JSON texts

The reader takes exactly the grammar of JSON (RFC 8259), with white space between the tokens. Its
fuel is computed from the length of the text and never runs out.
-/

namespace TypedExpr.Json

open Text

/-- The white space of JSON. -/
def isSpace (c : Char) : Bool := c == ' ' || c == '\t' || c == '\n' || c == '\r'

def skipSpace (cs : List Char) : List Char := cs.dropWhile isSpace

/-- Reads digits, at least one. -/
def readDigits? (cs : List Char) : Option (List Char × List Char) :=
  let (ds, rest) := spanDigits cs
  if ds = [] then none else some (ds, rest)

/-- Reads the whole part of a number: digits without a leading zero. -/
def readWhole? (cs : List Char) : Option (List Char × List Char) :=
  match readDigits? cs with
  -- a zero at the front stands alone
  | some ('0' :: _ :: _, _) => none
  | other => other

/-- Reads a point and places, or nothing. -/
def readPlaces? : List Char → Option (List Char × List Char)
  | '.' :: cs => readDigits? cs
  | cs => some ([], cs)

/-- Reads an exponent, or nothing. -/
def readExponent? (cs : List Char) : Option (Option Exponent × List Char) :=
  match cs with
  | c :: rest =>
    if c = 'e' ∨ c = 'E' then do
      let (negative, rest) := match rest with
        | '-' :: rest => (true, rest)
        | '+' :: rest => (false, rest)
        | _ => (false, rest)
      let (ds, rest) ← readDigits? rest
      return (some ⟨negative, ds⟩, rest)
    else some (none, cs)
  | [] => some (none, [])

def readNumber? (cs : List Char) : Option (Number × List Char) := do
  let (negative, cs) := match cs with
    | '-' :: rest => (true, rest)
    | _ => (false, cs)
  let (whole, cs) ← readWhole? cs
  let (places, cs) ← readPlaces? cs
  let (exponent, cs) ← readExponent? cs
  return (⟨negative, whole, places, exponent⟩, cs)

mutual

/-- Reads a value and leaves the rest. -/
def readValue? : Nat → List Char → Option (Json × List Char)
  | 0, _ => none
  | fuel + 1, cs =>
    match skipSpace cs with
    | 'n' :: 'u' :: 'l' :: 'l' :: rest => some (.null, rest)
    | 't' :: 'r' :: 'u' :: 'e' :: rest => some (.boolean true, rest)
    | 'f' :: 'a' :: 'l' :: 's' :: 'e' :: rest => some (.boolean false, rest)
    | '"' :: rest => do
      let (s, rest) ← readString? rest
      return (.string s, rest)
    | '[' :: rest =>
      match skipSpace rest with
      | ']' :: rest => some (.array [], rest)
      | rest => do
        let (items, rest) ← readItems? fuel rest
        return (.array items, rest)
    | '\x7b' :: rest =>
      match skipSpace rest with
      | '\x7d' :: rest => some (.object [], rest)
      | rest => do
        let (members, rest) ← readMembers? fuel rest
        return (.object members, rest)
    | cs => do
      let (n, rest) ← readNumber? cs
      return (.number n, rest)

/-- Reads items up to the closing bracket, at least one. -/
def readItems? : Nat → List Char → Option (List Json × List Char)
  | 0, _ => none
  | fuel + 1, cs => do
    let (j, rest) ← readValue? fuel cs
    match skipSpace rest with
    | ']' :: rest => return ([j], rest)
    | ',' :: rest => do
      let (items, rest) ← readItems? fuel rest
      return (j :: items, rest)
    | _ => none

/-- Reads members up to the closing brace, at least one. -/
def readMembers? : Nat → List Char → Option (List (Key × Json) × List Char)
  | 0, _ => none
  | fuel + 1, cs => do
    let '"' :: rest := skipSpace cs | none
    let (key, rest) ← readString? rest
    let ':' :: rest := skipSpace rest | none
    let (j, rest) ← readValue? fuel rest
    match skipSpace rest with
    | '\x7d' :: rest => return ([(key, j)], rest)
    | ',' :: rest => do
      let (members, rest) ← readMembers? fuel rest
      return ((key, j) :: members, rest)
    | _ => none

end

def read? (cs : List Char) : Option Json := do
  let (j, rest) ← readValue? (2 * cs.length + 2) cs
  if skipSpace rest = [] then some j else none

/-- The tree of a text that is one JSON value. -/
def ofText? (s : String) : Option Json := read? s.toList

end TypedExpr.Json
