import TypedExpr.Text.Basic

/-!
# JSON numbers

A number keeps the digits that it was written with. It denotes an integer if it has neither places
nor an exponent and fits into 64 bits; any other number is read in floating point. These are the
three sorts of numbers that a JSON package tells apart: unsigned, negative and floating.
-/

namespace TypedExpr.Json

open Text

/-- The exponent of a number: its sign and its digits. -/
structure Exponent where
  negative : Bool
  digits : List Char
  deriving DecidableEq, Repr

/-- The parts of a number as it is written. Without a point there are no places. -/
structure Number where
  negative : Bool
  whole : List Char
  places : List Char
  exponent : Option Exponent
  deriving DecidableEq, Repr

namespace Number

def ofInt (i : Int) : Number := ⟨decide (i < 0), digits i.natAbs, [], none⟩

def exponentChars (e : Exponent) : List Char :=
  'e' :: (if e.negative then '-' :: e.digits else e.digits)

def chars (n : Number) : List Char :=
  (if n.negative then ['-'] else []) ++ n.whole ++
    (if n.places = [] then [] else '.' :: n.places) ++
    (n.exponent.map exponentChars).getD []

/-- The integer that a number denotes: unsigned, or signed and not zero, of 64 bits. -/
def integer? (n : Number) : Option Int :=
  if n.places = [] ∧ n.exponent = none then
    let magnitude := natOfDigits n.whole
    if n.negative then
      if 0 < magnitude ∧ magnitude ≤ 2 ^ 63 then some (-(magnitude : Int)) else none
    else if magnitude < 2 ^ 64 then some magnitude
    else none
  else none

/-- Takes digits into a significand of 64 bits as long as there is room, and leaves the others. -/
def takeDigits : Nat → List Char → Nat × List Char
  | significand, [] => (significand, [])
  | significand, c :: rest =>
    let next := significand * 10 + (c.toNat - '0'.toNat)
    if next < 2 ^ 64 then takeDigits next rest else (significand, c :: rest)

/-- The greatest power of ten in floating point, 10^308, and those below it. -/
def powerOfTen (exponent : Nat) : Float := Float.ofScientific 1 false exponent

/-- f · 10^exponent by as few steps as the powers of ten allow; none if it is too large. Numbers of
64 bits vanish within three steps down. -/
def scaleByTen? : Nat → Float → Int → Option Float
  | 0, f, _ => some f
  | steps + 1, f, exponent =>
    if exponent.natAbs ≤ 308 then
      let power := powerOfTen exponent.natAbs
      if exponent < 0 then some (f / power)
      else if (f * power).isInf then none
      else some (f * power)
    else if f == 0 then some f
    else if exponent < 0 then scaleByTen? steps (f / powerOfTen 308) (exponent + 308)
    else none

/-- The magnitude of a number in floating point; none if it is too large. Digits of the whole part
without room count as powers of ten, and such places are dropped. -/
def magnitude? (n : Number) : Option Float :=
  let (significand, excess) := takeDigits 0 n.whole
  let (significand, dropped) := takeDigits significand n.places
  let power : Int := excess.length - (n.places.length - dropped.length : Nat)
  match n.exponent with
  | none => scaleByTen? 4 (Float.ofNat significand) power
  | some e =>
    let exponent := natOfDigits e.digits
    if exponent < 2 ^ 31 then
      scaleByTen? 4 (Float.ofNat significand)
        (if e.negative then power - exponent else power + exponent)
    -- an exponent beyond 32 bits is past every bound
    else if significand = 0 ∨ e.negative then some 0
    else none

/-- The number in floating point; none if it is too large. -/
def float? (n : Number) : Option Float :=
  n.magnitude?.map fun f => if n.negative then -f else f

end Number

end TypedExpr.Json
