import TypedExpr.Calendar.Date
import TypedExpr.Word

/-!
# Instants

An instant is a date, a second of that day and nanoseconds, in UTC. A nanosecond count of a second
or more stands for a leap second: the second that follows the one named.

The module stands for the date and time in UTC of a calendar package, which documents this form of
leap seconds, and that its arithmetic assumes no leap second but the one of its operand.
`addSeconds` is its checked sum with a signed span of time, `span?` the making of such a span, and
`epochMillis` and `ofEpochMillis?` are its timestamps.
-/

namespace TypedExpr

def nanosPerSecond : Nat := 1000000000

def secondsPerDay : Nat := 86400

structure Instant where
  date : Date
  second : Nat
  nanosecond : Nat
  second_lt : second < secondsPerDay
  nanosecond_lt : nanosecond < 2 * nanosPerSecond
  deriving DecidableEq, Repr

namespace Instant

/-- The day number of 1 January 1970. -/
def epochDay : Int := 719162

/-- The instant at which a date starts in UTC. -/
def startOfDay (d : Date) : Instant := ⟨d, 0, 0, by decide, by decide⟩

def isLeapSecond (t : Instant) : Bool := nanosPerSecond ≤ t.nanosecond

/-- By date, then second, then nanosecond. -/
def compare (a b : Instant) : Ordering :=
  (a.date.compare b.date).then <|
    (Ord.compare a.second b.second).then (Ord.compare a.nanosecond b.nanosecond)

/-- The seconds from the start of day 0. -/
def totalSeconds (t : Instant) : Int := t.date.day * secondsPerDay + t.second

/-- The instant with this count of seconds from the start of day 0. -/
def ofSeconds? (total : Int) (nanosecond : Nat) (h : nanosecond < 2 * nanosPerSecond) :
    Option Instant :=
  (Date.ofDay? (total / secondsPerDay)).map fun d =>
    { date := d
      second := (total % secondsPerDay).toNat
      nanosecond := nanosecond
      second_lt := by
        have h1 := Int.emod_nonneg total (show (secondsPerDay : Int) ≠ 0 by decide)
        have h2 := Int.emod_lt_of_pos total (show (0 : Int) < secondsPerDay by decide)
        omega
      nanosecond_lt := h }

/-- Moves the clock and keeps the nanoseconds, also those of a leap second. -/
def offsetBy (t : Instant) (seconds : Int) : Option Instant :=
  ofSeconds? (t.totalSeconds + seconds) t.nanosecond t.nanosecond_lt

/-- The seconds of a span of time, which have to fit into 64 bits as milliseconds. -/
def span? (seconds : Int) : Option Int :=
  if seconds.natAbs ≤ (2 ^ 63 - 1) / 1000 then some seconds else none

/-- Lets seconds pass. A leap second is left when the clock moves: toward the past it counts as the
second that follows the named one. -/
def addSeconds (t : Instant) (seconds : Int) : Option Instant :=
  if seconds = 0 then some t
  else if t.isLeapSecond then
    -- the leap second is the one behind the named second
    let start := if seconds < 0 then t.totalSeconds + 1 else t.totalSeconds
    ofSeconds? (start + seconds) (t.nanosecond - nanosPerSecond)
      (Nat.lt_of_le_of_lt (Nat.sub_le ..) t.nanosecond_lt)
  else t.offsetBy seconds

/-- Whole milliseconds from the start of 1970; those of a leap second run on past 999. -/
def epochMillis (t : Instant) : Int :=
  (t.totalSeconds - epochDay * secondsPerDay) * 1000 + t.nanosecond / 1000000

/-- The instant a number of milliseconds after the start of 1970. -/
def ofEpochMillis? (millis : Int) : Option Instant :=
  ofSeconds? (millis / 1000 + epochDay * secondsPerDay) ((millis % 1000).toNat * 1000000) <| by
    have := Int.emod_lt_of_pos millis (show (0 : Int) < 1000 by decide)
    have := Int.emod_nonneg millis (show (1000 : Int) ≠ 0 by decide)
    simp only [nanosPerSecond]
    omega

end Instant

end TypedExpr
