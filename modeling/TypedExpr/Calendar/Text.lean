import TypedExpr.Calendar.Instant
import TypedExpr.Text.Basic

/-!
# Texts of dates and instants

Dates are written as year, month and day; years outside of 0 to 9999 have a sign. Instants add the
time of day, as few fraction digits of 0, 3, 6 and 9 as are exact, and a zone. The readers take
white space around the parts, times with any offset below a day, and drop digits past the
nanosecond.

The printers stand for the display of dates and instants and for the exchange form of instants,
after RFC 3339; the readers for the parsers of these types, which take more than that form.
-/

namespace TypedExpr

open Text

def yearChars (year : Int) : List Char :=
  if 0 ≤ year ∧ year ≤ 9999 then padded 4 year.toNat
  else (if year < 0 then '-' else '+') :: padded 4 year.natAbs

def Date.chars (d : Date) : List Char :=
  yearChars d.year ++ '-' :: padded 2 d.month ++ '-' :: padded 2 d.dayOfMonth

def Date.text (d : Date) : String := String.ofList d.chars

/-- The fraction of a second: nothing, or a point and 3, 6 or 9 digits. -/
def fractionChars (nanos : Nat) : List Char :=
  if nanos = 0 then []
  else if nanos % 1000000 = 0 then '.' :: padded 3 (nanos / 1000000)
  else if nanos % 1000 = 0 then '.' :: padded 6 (nanos / 1000)
  else '.' :: padded 9 nanos

/-- Hours, minutes and seconds; a leap second is one more than the second it follows. -/
def Instant.clockChars (t : Instant) : List Char :=
  let leap := if t.isLeapSecond then 1 else 0
  padded 2 (t.second / 3600) ++ ':' :: padded 2 (t.second / 60 % 60) ++
    ':' :: padded 2 (t.second % 60 + leap) ++ fractionChars (t.nanosecond % nanosPerSecond)

/-- The instant with the given name for UTC. -/
def Instant.charsIn (zone : List Char) (t : Instant) : List Char :=
  t.date.chars ++ 'T' :: t.clockChars ++ zone

/-- The display text, with a zero offset. -/
def Instant.text (t : Instant) : String := String.ofList (t.charsIn ['+', '0', '0', ':', '0', '0'])

/-- The text for exchange, with a Z. -/
def Instant.zuluText (t : Instant) : String := String.ofList (t.charsIn ['Z'])

/-- Reads one to `most` digits. -/
def readUpTo? (most : Nat) (cs : List Char) : Option (Nat × List Char) :=
  let ds := (cs.take most).takeWhile (·.isDigit)
  if ds = [] then none else some (natOfDigits ds, cs.drop ds.length)

/-- Reads a year: up to four digits, or a sign and any number of digits. -/
def readYear? (cs : List Char) : Option (Int × List Char) :=
  match skipBlank cs with
  | '-' :: rest => (readUpTo? rest.length rest).map fun (n, rest) => (-(n : Int), rest)
  | '+' :: rest => (readUpTo? rest.length rest).map fun (n, rest) => ((n : Int), rest)
  | rest => (readUpTo? 4 rest).map fun (n, rest) => ((n : Int), rest)

/-- Reads white space and then one or two digits. -/
def readPair? (cs : List Char) : Option (Nat × List Char) := readUpTo? 2 (skipBlank cs)

/-- Reads white space and then the given character. -/
def readMark? (mark : Char) (cs : List Char) : Option (List Char) :=
  match skipBlank cs with
  | c :: rest => if c = mark then some rest else none
  | [] => none

/-- Reads a date at the front. -/
def readDate? (cs : List Char) : Option (Date × List Char) := do
  let (year, cs) ← readYear? cs
  let cs ← readMark? '-' cs
  let (month, cs) ← readPair? cs
  let cs ← readMark? '-' cs
  let (day, cs) ← readPair? cs
  return (← Date.ofYmd? year month day, cs)

/-- Reads a text that is a date and nothing else but white space. -/
def Date.ofText? (s : String) : Option Date := do
  let (d, rest) ← readDate? s.toList
  if skipBlank rest = [] then some d else none

/-- Reads the fraction of a second in nanoseconds; without a point it is zero. -/
def readFraction? : List Char → Option (Nat × List Char)
  | '.' :: cs => do
    let (n, rest) ← readUpTo? 9 cs
    let used := cs.length - rest.length
    return (n * 10 ^ (9 - used), rest.dropWhile (·.isDigit))
  | cs => some (0, cs)

/-- Reads exactly two digits. -/
def readTwo? (cs : List Char) : Option (Nat × List Char) :=
  (readUpTo? 2 cs).filter fun (_, rest) => rest.length + 2 = cs.length

/-- Reads a zone as seconds east of UTC: Z, UTC, or a sign, hours and minutes. -/
def readOffset? (cs : List Char) : Option (Int × List Char) :=
  match cs with
  | c :: rest =>
    if c = 'Z' ∨ c = 'z' then some (0, rest)
    else if (cs.take 3).map Char.toUpper = ['U', 'T', 'C'] then some (0, cs.drop 3)
    else if c = '+' ∨ c = '-' ∨ c = '−' then do
      let (hours, rest) ← readTwo? rest
      let (minutes, rest) ← readTwo? (rest.dropWhile fun c => c == ':' || isBlank c)
      let seconds : Int := hours * 3600 + minutes * 60
      if minutes < 60 ∧ hours < 24 then some (if c = '+' then seconds else -seconds, rest)
      else none
    else none
  | [] => none

/-- Reads an instant: a date, a T or a blank, a time of day and a zone. -/
def Instant.ofText? (s : String) : Option Instant := do
  let (date, cs) ← readDate? s.toList
  let cs ← match cs with
    | c :: rest => if c = 'T' ∨ c = 't' ∨ c = ' ' then some rest else none
    | [] => none
  let (hour, cs) ← readPair? cs
  let cs ← readMark? ':' cs
  let (minute, cs) ← readPair? cs
  let cs ← readMark? ':' cs
  let (second, cs) ← readPair? cs
  let (nanos, cs) ← readFraction? cs
  let (offset, cs) ← readOffset? (skipBlank cs)
  let leap := if second = 60 then 1 else 0
  -- the clock of a leap second stands at the second before it
  let total := date.day * secondsPerDay + hour * 3600 + minute * 60 + (second - leap : Nat) - offset
  if hour < 24 ∧ minute < 60 ∧ second ≤ 60 ∧ skipBlank cs = [] then
    if h : leap * nanosPerSecond + nanos < 2 * nanosPerSecond then Instant.ofSeconds? total _ h
    else none
  else none

end TypedExpr
