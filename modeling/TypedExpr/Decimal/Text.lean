import TypedExpr.Decimal.Basic
import TypedExpr.Text.Basic

/-!
# Decimal texts

A decimal is written with exactly its places, which is its display form. The reader is wider, as the
parser of the package is: it takes a sign on either side of zero, underscores between digits, a
point without digits on one side, and an exponent, and rounds what 96 bits and 28 places do not
hold.
-/

namespace TypedExpr.Decimal

open TypedExpr.Text

/-- All places are written, and a minus sign stands before a negative zero too. -/
def chars (d : Decimal) : List Char :=
  let ds := padded (d.scale + 1) d.coefficient
  let whole := ds.take (ds.length - d.scale)
  let number := if d.scale = 0 then whole else whole ++ '.' :: ds.drop (ds.length - d.scale)
  if d.negative then '-' :: number else number

def text (d : Decimal) : String := String.ofList d.chars

/-- The first digit that finds no room rounds the digits read so far, halves away from zero. -/
def roundLast (coefficient scale digit : Nat) : Option (Nat × Nat) :=
  if digit < 5 then some (coefficient, scale)
  else if coefficient + 1 < 2 ^ 96 then some (coefficient + 1, scale)
  else if scale = 0 then none
  -- the coefficient would be 2^96 and gives up a place
  else some ((coefficient + 5) / 10, scale - 1)

/-- Digits and underscores, which may follow the last digit that counts. -/
def isTail (cs : List Char) : Bool := cs.all fun c => c.isDigit || c == '_'

/-- Reads digits with at most one point, and underscores behind a digit. A digit of the whole part
that finds no room is refused; one among the places, of which there are at most 28, rounds, and those
behind it do not count. -/
def scan (coefficient scale : Nat) (point seen : Bool) : List Char → Option (Nat × Nat)
  | [] => if seen then some (coefficient, scale) else none
  | c :: rest =>
    if c.isDigit then
      let digit := c.toNat - '0'.toNat
      let next := coefficient * 10 + digit
      if point then
        if scale = 28 ∨ 2 ^ 96 ≤ next then
          if isTail rest then roundLast coefficient scale digit else none
        else scan next (scale + 1) true true rest
      else if 2 ^ 96 ≤ next then none
      else scan next 0 false true rest
    else if c = '.' ∧ ¬point then scan coefficient scale true seen rest
    else if c = '_' ∧ seen then scan coefficient scale point seen rest
    else none

/-- Reads a decimal without an exponent. -/
def readPlain? (cs : List Char) : Option Decimal :=
  let (negative, number) := match cs with
    | '-' :: rest => (true, rest)
    | '+' :: rest => (false, rest)
    | _ => (false, cs)
  (scan 0 0 false false number).bind fun (coefficient, scale) =>
    ofParts? negative coefficient scale

/-- Reads an unsigned 32-bit number, with an optional plus sign. -/
def readExponent? (cs : List Char) : Option Nat :=
  let ds := match cs with
    | '+' :: rest => rest
    | _ => cs
  (readNat? ds).filter (· < 2 ^ 32)

/-- Moves the point of a decimal to the right. Beyond its places the coefficient grows, for
exponents up to 28. -/
def shiftRight? (d : Decimal) (exponent : Nat) : Option Decimal :=
  if exponent ≤ d.scale then ofParts? d.negative d.coefficient (d.scale - exponent)
  else if exponent ≤ 28 then ofParts? d.negative (d.coefficient * 10 ^ (exponent - d.scale)) 0
  else none

/-- Drops digits at the end; half a unit of what is left rounds up. -/
def dropDigits (coefficient count : Nat) : Nat := (coefficient + 10 ^ count / 2) / 10 ^ count

/-- Moves the point of a decimal to the left, by up to 28 places. What lies behind the 28th place is
rounded, halves away from zero, and a zero that is left keeps the sign. -/
def shiftLeft? (d : Decimal) (exponent : Nat) : Option Decimal :=
  if exponent ≤ 28 then
    let scale := d.scale + exponent
    ofFields? d.negative (dropDigits d.coefficient (scale - 28)) (min scale 28)
  else none

def isExponentMark (c : Char) : Bool := c == 'e' || c == 'E'

def read? (cs : List Char) : Option Decimal :=
  match cs.dropWhile (!isExponentMark ·) with
  | [] => readPlain? cs
  | _ :: exponent => do
    let base ← readPlain? (cs.takeWhile (!isExponentMark ·))
    match exponent with
    | '-' :: ds => base.shiftLeft? (← readExponent? ds)
    | ds => base.shiftRight? (← readExponent? ds)

def ofText? (s : String) : Option Decimal := read? s.toList

end TypedExpr.Decimal
