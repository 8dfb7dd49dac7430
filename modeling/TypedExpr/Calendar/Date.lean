/-!
# Calendar dates

Dates of the proleptic Gregorian calendar from 1 January -262143 to 31 December 262142. A date is
stored as its day number (0 is 1 January of year 1), so order and day shifts are those of the
integers; year, month and day of the month are read off that number.

The module stands for the dates of a calendar package: its range, its order and its checked shifts,
which yield nothing outside of the range. The package counts months and days without a sign and has
a shift for either direction (`laterMonths` and `earlierMonths`, `laterDays` and `earlierDays`); the
shift by months documents that it falls back to the last day of a month that is too short.
-/

namespace TypedExpr

namespace Calendar

def isLeapYear (year : Int) : Bool :=
  year % 4 == 0 && (year % 100 != 0 || year % 400 == 0)

/-- The day number of 1 January. -/
def yearStart (year : Int) : Int :=
  365 * (year - 1) + (year - 1) / 4 - (year - 1) / 100 + (year - 1) / 400

/-- The lengths of the twelve months. -/
def monthLengths (leap : Bool) : List Nat :=
  [31, if leap then 29 else 28, 31, 30, 31, 30, 31, 31, 30, 31, 30, 31]

/-- The number of days of a month, counted from 1; zero outside of 1 to 12. -/
def daysInMonth (year : Int) (month : Nat) : Nat :=
  if month = 0 then 0 else ((monthLengths (isLeapYear year))[month - 1]?).getD 0

/-- The days of the year that lie before a month. -/
def daysBefore (year : Int) (month : Nat) : Nat :=
  ((monthLengths (isLeapYear year)).take (month - 1)).foldl (· + ·) 0

/-- The day number of a day of a month. -/
def dayNumber (year : Int) (month day : Nat) : Int :=
  yearStart year + daysBefore year month + day - 1

/-- The year that contains a day: the mean length of a year leads to it or to a neighbour. -/
def yearOf (n : Int) : Int :=
  -- 400 years have 146097 days
  let guess := 400 * n / 146097 + 1
  if n < yearStart guess then guess - 1
  else if yearStart (guess + 1) ≤ n then guess + 1
  else guess

/-- Month and day of the month of a day of the year, counted from 0, by the months' lengths. -/
def monthDay : List Nat → Nat → Nat → Nat × Nat
  | [], month, rest => (month, rest + 1)
  | length :: lengths, month, rest =>
    if rest < length then (month, rest + 1) else monthDay lengths (month + 1) (rest - length)

def firstDay : Int := yearStart (-262143)

def lastDay : Int := yearStart 262143 - 1

end Calendar

open Calendar

structure Date where
  day : Int
  firstDay_le : firstDay ≤ day
  le_lastDay : day ≤ lastDay
  deriving DecidableEq, Repr

namespace Date

/-- The date of a day number in the range of the calendar. -/
def ofDay? (n : Int) : Option Date :=
  if h : firstDay ≤ n ∧ n ≤ lastDay then some ⟨n, h.1, h.2⟩ else none

/-- The date of a day that exists in the calendar and in its range. -/
def ofYmd? (year : Int) (month day : Nat) : Option Date :=
  if 1 ≤ day ∧ day ≤ daysInMonth year month then ofDay? (dayNumber year month day) else none

def year (d : Date) : Int := yearOf d.day

/-- The day of the year, counted from 0. -/
def dayOfYear (d : Date) : Nat := (d.day - yearStart d.year).toNat

private def monthAndDay (d : Date) : Nat × Nat :=
  monthDay (monthLengths (isLeapYear d.year)) 1 d.dayOfYear

/-- The month, from 1 to 12. -/
def month (d : Date) : Nat := d.monthAndDay.1

/-- The day of the month, from 1. -/
def dayOfMonth (d : Date) : Nat := d.monthAndDay.2

def compare (a b : Date) : Ordering := Ord.compare a.day b.day

/-- Shifts by whole days. -/
def addDays (d : Date) (days : Int) : Option Date := ofDay? (d.day + days)

/-- Shifts by whole months; a day that the new month lacks becomes its last day. -/
def addMonths (d : Date) (months : Int) : Option Date :=
  -- months are counted from January of year 0
  let index := 12 * d.year + (d.month - 1 : Nat) + months
  let year := index / 12
  let month := (index % 12).toNat + 1
  ofYmd? year month (min d.dayOfMonth (daysInMonth year month))

def laterMonths (d : Date) (count : UInt32) : Option Date := d.addMonths count.toNat

def earlierMonths (d : Date) (count : UInt32) : Option Date := d.addMonths (-count.toNat)

def laterDays (d : Date) (count : UInt64) : Option Date := d.addDays count.toNat

def earlierDays (d : Date) (count : UInt64) : Option Date := d.addDays (-count.toNat)

theorem ofDay?_eq_some_iff {n : Int} {d : Date} : ofDay? n = some d ↔ d.day = n := by
  unfold ofDay?
  constructor
  · intro h
    split at h
    · cases h; rfl
    · cases h
  · rintro rfl
    rw [dif_pos ⟨d.firstDay_le, d.le_lastDay⟩]

@[ext]
theorem ext {a b : Date} (h : a.day = b.day) : a = b := by
  cases a; cases b; cases h; rfl

end Date

end TypedExpr
