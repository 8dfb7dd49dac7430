import TypedExpr.Calendar.Instant
import TypedExpr.Text.Basic

/-!
# Time zones

Of a time zone only one thing is asked: the instant at which a date starts there, if there is one.
Zones are built from a fixed offset or from a yearly rule for daylight saving time, and both are
read from the usual one-line rule texts.

`startOfDay` stands for the reading of a local midnight as an instant, which a calendar package
answers with none, one or two instants, the one in standard time before the one in daylight time;
the first of them is taken. The rule texts are those of the environment variable TZ.
-/

namespace TypedExpr

structure Zone where
  /-- The first instant of a date in this zone; none if clocks skip midnight. -/
  startOfDay : Date → Option Instant

namespace Zone

/-- The zone a fixed number of seconds east of UTC. -/
def fixed (offset : Int) : Zone :=
  ⟨fun d => (Instant.startOfDay d).offsetBy (-offset)⟩

/-- A moment of the year: a weekday (0 is Sunday) in a week of a month, where week 5 is the last,
and seconds from midnight on the wall clock. -/
structure YearlyMoment where
  month : Nat
  week : Nat
  weekday : Nat
  seconds : Int
  deriving DecidableEq, Repr

/-- The day number of the moment in a year. -/
def YearlyMoment.dayIn (m : YearlyMoment) (year : Int) : Int :=
  let first := Calendar.dayNumber year m.month 1
  let day := first + (m.weekday - (first + 1)) % 7 + 7 * (m.week - 1 : Int)
  if day < first + Calendar.daysInMonth year m.month then day else day - 7

/-- The moment in a year on the wall clock, in seconds from day 0. -/
def YearlyMoment.wallSeconds (m : YearlyMoment) (year : Int) : Int :=
  m.dayIn year * secondsPerDay + m.seconds

/-- Two offsets, east of UTC, and the moments at which daylight time starts (on the standard clock)
and ends (on the daylight clock). -/
structure Seasons where
  standard : Int
  daylight : Int
  start : YearlyMoment
  stop : YearlyMoment
  deriving DecidableEq, Repr

/-- Whether daylight time is in force at UTC seconds in a year. -/
def Seasons.isDaylight (s : Seasons) (year utcSeconds : Int) : Bool :=
  let start := s.start.wallSeconds year - s.standard
  let stop := s.stop.wallSeconds year - s.daylight
  -- south of the equator daylight time runs over the turn of the year
  if start < stop then start ≤ utcSeconds && utcSeconds < stop
  else !(stop ≤ utcSeconds && utcSeconds < start)

/-- Midnight is read on the standard clock if that clock shows it, else on the daylight clock; so a
midnight that occurs twice is the one in standard time. -/
def Seasons.offsetAtMidnight (s : Seasons) (d : Date) : Option Int :=
  let wall := d.day * secondsPerDay
  -- a reading of the clock is real if its own time is in force at the instant it names
  if !s.isDaylight d.year (wall - s.standard) then some s.standard
  else if s.isDaylight d.year (wall - s.daylight) then some s.daylight
  else none

def seasonal (s : Seasons) : Zone :=
  ⟨fun d => (s.offsetAtMidnight d).bind fun offset => (Instant.startOfDay d).offsetBy (-offset)⟩

/-! ## Rule texts -/

open Text

/-- Reads the digits at the front. -/
def readNumber? (cs : List Char) : Option (Nat × List Char) :=
  let (ds, rest) := spanDigits cs
  if ds = [] then none else some (natOfDigits ds, rest)

/-- Reads up to two further parts of a clock time, each behind a colon. -/
def readSexagesimal (unit : Int) : Nat → List Char → Option (Int × List Char)
  | fuel + 1, ':' :: cs => do
    let (n, rest) ← readNumber? cs
    let (more, rest) ← readSexagesimal (unit / 60) fuel rest
    return (n * unit + more, rest)
  | _, cs => some (0, cs)

/-- Reads a signed clock time in seconds: hours, and minutes and seconds behind colons. -/
def readClock? (cs : List Char) : Option (Int × List Char) := do
  let (sign, cs) := match cs with
    | '-' :: rest => ((-1 : Int), rest)
    | '+' :: rest => (1, rest)
    | _ => (1, cs)
  let (hours, rest) ← readNumber? cs
  let (more, rest) ← readSexagesimal 60 2 rest
  return (sign * (hours * 3600 + more), rest)

/-- Drops the name of a zone: letters, or anything between angle brackets. -/
def skipName? (cs : List Char) : Option (List Char) :=
  match cs with
  | '<' :: rest =>
    match rest.dropWhile (· != '>') with
    | '>' :: rest => some rest
    | _ => none
  | _ => if cs.head?.any Char.isAlpha then some (cs.dropWhile Char.isAlpha) else none

/-- Reads a comma and a moment such as M3.2.6/23:30; the time is two o'clock unless given. -/
def readMoment? (cs : List Char) : Option (YearlyMoment × List Char) := do
  let ',' :: 'M' :: cs := cs | none
  let (month, cs) ← readNumber? cs
  let '.' :: cs := cs | none
  let (week, cs) ← readNumber? cs
  let '.' :: cs := cs | none
  let (weekday, cs) ← readNumber? cs
  let (seconds, cs) ← match cs with
    | '/' :: rest => readClock? rest
    | _ => some (7200, cs)
  if 1 ≤ month ∧ month ≤ 12 ∧ 1 ≤ week ∧ week ≤ 5 ∧ weekday ≤ 6 then
    some (⟨month, week, weekday, seconds⟩, cs)
  else none

/-- Reads a rule text: a name and its offset west of UTC, and for a zone with daylight time the
second name, its offset (an hour ahead unless given) and the two moments. -/
def ofRule? (s : String) : Option Zone := do
  let cs ← skipName? s.toList
  let (west, cs) ← readClock? cs
  if cs = [] then return fixed (-west)
  let cs ← skipName? cs
  let (daylightWest, cs) ← match cs with
    | ',' :: _ => some (west - 3600, cs)
    | _ => readClock? cs
  let (start, cs) ← readMoment? cs
  let (stop, cs) ← readMoment? cs
  if cs = [] then return seasonal ⟨-west, -daylightWest, start, stop⟩ else none

end Zone

end TypedExpr
