import TypedExpr.Calendar.Instant
import TypedExpr.Text.Basic

/-!
# Intervals

A signed span of time in six parts that do not convert into each other: years, months and days of
the calendar, hours, minutes and seconds of the clock. Applied to a point in time it moves the
months first, then the days, then the clock.
-/

namespace TypedExpr

structure Interval where
  years : Int32
  months : Int32
  days : Int32
  hours : Int32
  minutes : Int32
  seconds : Int32
  deriving DecidableEq, Repr

namespace Interval

def zero : Interval := ⟨0, 0, 0, 0, 0, 0⟩

def ofDays (days : Int32) : Interval := { zero with days := days }

def ofMonths (months : Int32) : Interval := { zero with months := months }

def ofHours (hours : Int32) : Interval := { zero with hours := hours }

def isZero (i : Interval) : Bool := i == zero

/-- Joins two intervals part by part; a part outside 32 bits spoils the whole. -/
def zipWith (f : Int → Int → Int) (a b : Interval) : Option Interval := do
  return {
    years := ← int32? (f a.years.toInt b.years.toInt)
    months := ← int32? (f a.months.toInt b.months.toInt)
    days := ← int32? (f a.days.toInt b.days.toInt)
    hours := ← int32? (f a.hours.toInt b.hours.toInt)
    minutes := ← int32? (f a.minutes.toInt b.minutes.toInt)
    seconds := ← int32? (f a.seconds.toInt b.seconds.toInt) }

def add (a b : Interval) : Option Interval := zipWith (· + ·) a b

def sub (a b : Interval) : Option Interval := zipWith (· - ·) a b

/-- The opposite sign on every part. -/
def neg (a : Interval) : Option Interval := zipWith (· - ·) zero a

/-- Years and months in months. -/
def monthCount (i : Interval) : Int := 12 * i.years.toInt + i.months.toInt

/-- Hours, minutes and seconds in seconds. -/
def secondCount (i : Interval) : Int :=
  3600 * i.hours.toInt + 60 * i.minutes.toInt + i.seconds.toInt

/-- Moves a date by months in the direction of their sign. -/
def monthStep (d : Date) (months : Int) : Option Date :=
  if 0 ≤ months then (uint32? months).bind d.laterMonths
  else (uint32? (-months)).bind d.earlierMonths

/-- Moves a date by days in the direction of their sign. -/
def dayStep (d : Date) (days : Int32) : Option Date :=
  let count := UInt64.ofNat days.toInt.natAbs
  if 0 ≤ days.toInt then d.laterDays count else d.earlierDays count

/-- Moves an instant by months, then days, then clock time; every step stays in the calendar. -/
def addTo (i : Interval) (t : Instant) : Option Instant := do
  -- the day of the month is cut to the new month before days are added
  let d ← monthStep t.date i.monthCount
  let d ← dayStep d i.days
  { t with date := d }.addSeconds (← Instant.span? i.secondCount)

def subtractFrom (i : Interval) (t : Instant) : Option Instant := do
  (← i.neg).addTo t

/-- Moves a date as the instant at its start; clock time counts in whole days. -/
def addToDate (i : Interval) (d : Date) : Option Date :=
  (i.addTo (Instant.startOfDay d)).map (·.date)

def subtractFromDate (i : Interval) (d : Date) : Option Date := do
  (← i.neg).addToDate d

/-- A part with its unit; a zero part is left out. -/
def partChars (amount : Int32) (unit : Char) : List Char :=
  if amount = 0 then [] else Text.signed amount.toInt ++ [unit]

/-- The parts of the clock behind a T, if there are any. -/
def clockChars (i : Interval) : List Char :=
  match partChars i.hours 'H' ++ partChars i.minutes 'M' ++ partChars i.seconds 'S' with
  | [] => []
  | parts => 'T' :: parts

/-- The ISO 8601 duration; zero is zero seconds. -/
def chars (i : Interval) : List Char :=
  if i = zero then ['P', 'T', '0', 'S']
  else 'P' :: partChars i.years 'Y' ++ partChars i.months 'M' ++ partChars i.days 'D' ++ i.clockChars

def text (i : Interval) : String := String.ofList i.chars

end Interval

end TypedExpr
