import TypedExpr.Text.Basic

/-!
# JSON strings

The characters of a JSON string, with escapes. Control characters are always escaped; an escape with
four hexadecimal digits stands for a UTF-16 unit, and two of them for a character outside of the
basic plane. The printer escapes what RFC 8259 demands and nothing else, by short escapes where
there are any.
-/

namespace TypedExpr.Json

/-- The short escapes: the character behind the backslash and the one that it stands for. -/
def shortEscapes : List (Char × Char) :=
  [('"', '"'), ('\\', '\\'), ('/', '/'), ('b', '\x08'), ('f', '\x0c'), ('n', '\n'), ('r', '\r'),
    ('t', '\t')]

def isControl (c : Char) : Bool := c.toNat < 0x20

/-- The hexadecimal digit of a number below 16, in lower case. -/
def hexDigit (n : Nat) : Char := Nat.digitChar n

/-- The escape of a UTF-16 unit. -/
def unitEscape (unit : Nat) : List Char :=
  ['\\', 'u', hexDigit (unit / 4096 % 16), hexDigit (unit / 256 % 16), hexDigit (unit / 16 % 16),
    hexDigit (unit % 16)]

/-- A character inside a string: quotes, backslashes and control characters are escaped, by a short
escape where there is one. -/
def escapeChar (c : Char) : List Char :=
  match c with
  | '"' => ['\\', '"']
  | '\\' => ['\\', '\\']
  | '\x08' => ['\\', 'b']
  | '\x0c' => ['\\', 'f']
  | '\n' => ['\\', 'n']
  | '\r' => ['\\', 'r']
  | '\t' => ['\\', 't']
  | c => if isControl c then unitEscape c.toNat else [c]

/-- A string between quotes. One without a text is written as a surrogate alone. -/
def stringChars : Option String → List Char
  | some s => '"' :: s.toList.flatMap escapeChar ++ ['"']
  | none => '"' :: unitEscape 0xd800 ++ ['"']

/-! ## Reading -/

/-- A part of a string: a character, or a UTF-16 unit that may need a partner. -/
inductive Piece where
  | char (c : Char)
  | unit (n : Nat)
  deriving DecidableEq, Repr

def hexValue? (c : Char) : Option Nat :=
  if c.isDigit then some (c.toNat - '0'.toNat)
  else if 'a' ≤ c ∧ c ≤ 'f' then some (c.toNat - 'a'.toNat + 10)
  else if 'A' ≤ c ∧ c ≤ 'F' then some (c.toNat - 'A'.toNat + 10)
  else none

/-- The UTF-16 unit of four hexadecimal digits. -/
def unit? (a b c d : Char) : Option Nat := do
  return (((← hexValue? a) * 16 + (← hexValue? b)) * 16 + (← hexValue? c)) * 16 + (← hexValue? d)

/-- Reads the parts of a string up to its closing quote. -/
def readPieces? : List Char → Option (List Piece × List Char)
  | [] => none
  | '"' :: rest => some ([], rest)
  | '\\' :: 'u' :: a :: b :: c :: d :: rest => do
    let n ← unit? a b c d
    let (pieces, rest) ← readPieces? rest
    return (.unit n :: pieces, rest)
  | '\\' :: c :: rest => do
    let meant ← shortEscapes.lookup c
    let (pieces, rest) ← readPieces? rest
    return (.char meant :: pieces, rest)
  | c :: rest =>
    if isControl c ∨ c = '\\' then none
    else do
      let (pieces, rest) ← readPieces? rest
      return (.char c :: pieces, rest)

def isLeading (n : Nat) : Bool := 0xd800 ≤ n && n < 0xdc00

def isTrailing (n : Nat) : Bool := 0xdc00 ≤ n && n < 0xe000

/-- The text of the parts; there is none if a surrogate lacks its partner. -/
def joinPieces? : List Piece → Option (List Char)
  | [] => some []
  | .char c :: rest => do return c :: (← joinPieces? rest)
  | .unit high :: .unit low :: rest =>
    if isLeading high && isTrailing low then do
      return Char.ofNat (0x10000 + (high - 0xd800) * 1024 + (low - 0xdc00)) :: (← joinPieces? rest)
    else if isLeading high || isTrailing high then none
    else do return Char.ofNat high :: (← joinPieces? (.unit low :: rest))
  | .unit n :: rest =>
    if isLeading n || isTrailing n then none
    else do return Char.ofNat n :: (← joinPieces? rest)

/-- Reads a string behind its opening quote. -/
def readString? (cs : List Char) : Option (Option String × List Char) := do
  let (pieces, rest) ← readPieces? cs
  return ((joinPieces? pieces).map String.ofList, rest)

end TypedExpr.Json
