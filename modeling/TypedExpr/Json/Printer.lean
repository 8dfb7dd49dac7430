import TypedExpr.Json.Basic
import TypedExpr.Json.Escape

/-!
# Compact JSON texts

A tree is written without white space, in the compact form of a JSON package.
-/

namespace TypedExpr.Json

mutual

def chars : Json → List Char
  | .null => ['n', 'u', 'l', 'l']
  | .boolean true => ['t', 'r', 'u', 'e']
  | .boolean false => ['f', 'a', 'l', 's', 'e']
  | .number n => n.chars
  | .string s => stringChars s
  | .array [] => ['[', ']']
  | .array (j :: rest) => '[' :: (j.chars ++ itemChars rest)
  | .object [] => ['\x7b', '\x7d']
  | .object ((key, j) :: rest) =>
    '\x7b' :: (stringChars key ++ ':' :: (j.chars ++ memberChars rest))

/-- The items behind the first one, and the closing bracket. -/
def itemChars : List Json → List Char
  | [] => [']']
  | j :: rest => ',' :: (j.chars ++ itemChars rest)

/-- The members behind the first one, and the closing brace. -/
def memberChars : List (Key × Json) → List Char
  | [] => ['\x7d']
  | (key, j) :: rest => ',' :: (stringChars key ++ ':' :: (j.chars ++ memberChars rest))

end

def text (j : Json) : String := String.ofList j.chars

end TypedExpr.Json
