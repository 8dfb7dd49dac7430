import TypedExpr.Text.Basic

/-!
# Shortest texts of binary floating point numbers

A finite number m · 2^q is written with the fewest digits that read back as the same number, and of
those the ones nearest to it, always in positional notation.
-/

namespace TypedExpr.Binary64

/-- A finite number: its sign, and significand · 2^exponent. -/
structure Parts where
  negative : Bool
  significand : Nat
  exponent : Int
  deriving DecidableEq, Repr

/-- The biased exponent field of the encoding. -/
def exponentField (bits : UInt64) : Nat := (bits.toNat / 2 ^ 52) % 2 ^ 11

def fractionField (bits : UInt64) : Nat := bits.toNat % 2 ^ 52

def isNegative (bits : UInt64) : Bool := 2 ^ 63 ≤ bits.toNat

/-- The parts of a finite number. -/
def parts? (bits : UInt64) : Option Parts :=
  match exponentField bits with
  | 2047 => none
  | 0 => some ⟨isNegative bits, fractionField bits, -1074⟩
  | field => some ⟨isNegative bits, 2 ^ 52 + fractionField bits, field - 1075⟩

/-- The exponent e with 10^e ≤ num/den < 10^(e+1), for positive numbers. -/
def decimalExponent (num den : Nat) : Int :=
  if den ≤ num then ((Text.digits (num / den)).length : Int) - 1
  else
    let count := (Text.digits (den / num)).length
    if den = num * 10 ^ (count - 1) then 1 - (count : Int) else -(count : Int)

/-- The numbers that round to m · 2^q, in units of 2^(q-2): from `low` to `high` around `value`, with
the ends if they belong. -/
structure Neighbourhood where
  low : Nat
  value : Nat
  high : Nat
  ends : Bool

def Parts.neighbourhood (p : Parts) : Neighbourhood where
  -- the numbers below a power of two lie twice as close
  low := 4 * p.significand - (if p.significand = 2 ^ 52 ∧ -1074 < p.exponent then 1 else 2)
  value := 4 * p.significand
  high := 4 * p.significand + 2
  ends := p.significand % 2 == 0

/-- A quotient scaled by powers of two and ten. -/
structure Scale where
  num : Nat
  den : Nat

/-- The scale 2^two / 10^ten. -/
def Scale.of (two ten : Int) : Scale where
  num := 2 ^ two.toNat * 10 ^ (-ten).toNat
  den := 2 ^ (-two).toNat * 10 ^ ten.toNat

/-- Whether n units of the decimal grid lie in the neighbourhood. -/
def Neighbourhood.holds (h : Neighbourhood) (s : Scale) (n : Nat) : Bool :=
  if h.ends then h.low * s.num ≤ n * s.den && n * s.den ≤ h.high * s.num
  else h.low * s.num < n * s.den && n * s.den < h.high * s.num

/-- The point of a decimal grid in the neighbourhood that is nearest to the value, if there is one.
Only the two points beside the value come into question. -/
def Neighbourhood.nearest? (h : Neighbourhood) (s : Scale) : Option Nat :=
  let below := h.value * s.num / s.den
  let above := below + 1
  match h.holds s below, h.holds s above with
  | false, false => none
  | true, false => some below
  | false, true => some above
  | true, true =>
    -- halfway between them the one above is taken
    if (above + below) * s.den ≤ 2 * (h.value * s.num) then some above else some below

/-- The first hit on ever finer grids, as a number of units and their exponent. -/
def firstHit (h : Neighbourhood) (two : Int) : Nat → Int → Nat × Int
  | 0, ten => (h.value, ten)
  | fuel + 1, ten =>
    match h.nearest? (Scale.of two ten) with
    | some n => (n, ten)
    | none => firstHit h two fuel (ten - 1)

/-- Significant digits as a number and the exponent of its last digit; 17 digits always suffice. -/
def Parts.shortest (p : Parts) : Nat × Int :=
  if p.significand = 0 then (0, 0)
  else
    let s := Scale.of p.exponent 0
    firstHit p.neighbourhood (p.exponent - 2) 18 (decimalExponent (p.significand * s.num) s.den)

/-- n · 10^e in positional notation, without zeros at the end of its places. -/
def positional (n : Nat) (e : Int) : List Char :=
  if 0 ≤ e then
    if n = 0 then ['0'] else Text.digits n ++ List.replicate e.toNat '0'
  else
    let places := e.natAbs
    let ds := Text.padded (places + 1) n
    let fraction := (ds.drop (ds.length - places)).reverse.dropWhile (· == '0')
    let whole := ds.take (ds.length - places)
    if fraction = [] then whole else whole ++ '.' :: fraction.reverse

/-- The shortest text that reads back. -/
def text (x : Float) : String :=
  match parts? x.toBits with
  | some p =>
    let (n, e) := p.shortest
    String.ofList (if p.negative then '-' :: positional n e else positional n e)
  | none =>
    if x.isNaN then "NaN" else if isNegative x.toBits then "-inf" else "inf"

end TypedExpr.Binary64
