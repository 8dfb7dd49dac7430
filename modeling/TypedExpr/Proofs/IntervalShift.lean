import TypedExpr.Capability.Arithmetic
import TypedExpr.Proofs.SecondCount
import TypedExpr.Standard

/-!
# Shifts by an interval

An interval moves a point in time by a count of months, one of days and one of seconds, step by
step. The closed form says where it leads: the months to the day with the same number in another
month, the days and the seconds to quotient and remainder of one count. A shift fails only where a
step leaves the calendar.

Backward the counts have the opposite sign. An interval with a part of -2^31 is refused there,
wherever it would lead, since that part has no opposite among 32-bit integers.
-/

namespace TypedExpr

open Calendar

/-! ## Closed form -/

/-- The counts by which a point in time moves, in the order of the steps. -/
structure Shift where
  months : Int
  days : Int
  seconds : Int

namespace Shift

/-- The same way in the other direction. -/
def back (s : Shift) : Shift := ⟨-s.months, -s.days, -s.seconds⟩

variable (s : Shift) (d : Date) (second : Nat)

/-- The seconds from the start of day 0 once the last step is taken on a day. -/
def clock : Int := d.day * secondsPerDay + second + s.seconds

/-- The shift leads from a second of a date to a second of another: by way of the date after the
months and the date after the days. -/
def Lands (e : Date) (eSecond : Nat) : Prop :=
  ∃ d₁ d₂ : Date, d.IsMonthsLater s.months d₁ ∧ d₂.day = d₁.day + s.days ∧
    e.day = s.clock d₂ second / secondsPerDay ∧
      (eSecond : Int) = s.clock d₂ second % secondsPerDay

/-- A step of the shift leaves the calendar, which reaches from the first day of year -262143 to the
last of year 262142. -/
inductive Leaves : Prop
  | months
    (h : (d.monthIndex + s.months) / 12 < -262143 ∨ 262142 < (d.monthIndex + s.months) / 12)
  | days {d₁ : Date} (h₁ : d.IsMonthsLater s.months d₁)
    (h : d₁.day + s.days < firstDay ∨ lastDay < d₁.day + s.days)
  | clock {d₁ d₂ : Date} (h₁ : d.IsMonthsLater s.months d₁) (h₂ : d₂.day = d₁.day + s.days)
    (h : s.clock d₂ second / secondsPerDay < firstDay ∨
      lastDay < s.clock d₂ second / secondsPerDay)

theorem Lands.second_lt {s : Shift} {d e : Date} {second eSecond : Nat}
    (h : s.Lands d second e eSecond) : eSecond < secondsPerDay := by
  obtain ⟨d₁, d₂, -, -, -, hsecond⟩ := h
  unfold secondsPerDay at *
  omega

theorem addSeconds_eq_none_iff {s : Shift} {t : Instant} {d : Date} :
    { t with date := d }.addSeconds s.seconds = none ↔
      s.clock d (t.startingSecond s.seconds) / secondsPerDay < firstDay ∨
        lastDay < s.clock d (t.startingSecond s.seconds) / secondsPerDay := by
  rw [Instant.addSeconds_eq_none_iff, Instant.startingSecond_withDate, clock]

end Shift

namespace Interval

/-- The counts of an interval: years are twelve months, hours and minutes are seconds. -/
def shift (i : Interval) : Shift where
  months := 12 * i.years.toInt + i.months.toInt
  days := i.days.toInt
  seconds := 3600 * i.hours.toInt + 60 * i.minutes.toInt + i.seconds.toInt

/-- A count that 32 bits do not hold leads out of the calendar from every date. -/
theorem addMonths_eq_none_of_far {d : Date} {months : Int}
    (h : months ≤ -2 ^ 32 ∨ 2 ^ 32 ≤ months) : d.addMonths months = none := by
  -- the year of the date itself is one of the calendar
  have hyear : ¬(d.monthIndex / 12 < -262143 ∨ 262142 < d.monthIndex / 12) := by
    have hself : d.addMonths 0 = some d := by
      rw [Date.addMonths_eq_some_iff]
      exact ⟨(Int.add_zero _).symm, (Nat.min_eq_left d.dayOfMonth_le_daysInMonth).symm⟩
    intro hout
    rw [← Int.add_zero d.monthIndex, ← Date.addMonths_eq_none_iff, hself] at hout
    cases hout
  rw [Date.addMonths_eq_none_iff]
  omega

theorem monthStep_eq (d : Date) (months : Int) : monthStep d months = d.addMonths months := by
  unfold monthStep
  split
  next hnonneg =>
    by_cases hlt : months < 2 ^ 32
    · obtain ⟨w, hw, hcount⟩ := uint32?_of_lt hnonneg hlt
      rw [hw, Option.bind_some, Date.laterMonths, hcount]
    · rw [uint32?_of_le (Int.not_lt.mp hlt), addMonths_eq_none_of_far (.inr (Int.not_lt.mp hlt)),
        Option.bind_none]
  next hneg =>
    by_cases hlt : -months < 2 ^ 32
    · obtain ⟨w, hw, hcount⟩ := uint32?_of_lt (by omega) hlt
      rw [hw, Option.bind_some, Date.earlierMonths, hcount, Int.neg_neg]
    · rw [uint32?_of_le (Int.not_lt.mp hlt), addMonths_eq_none_of_far (.inl (by omega)),
        Option.bind_none]

theorem dayStep_eq (d : Date) (days : Int32) : dayStep d days = d.addDays days.toInt := by
  have hlow := days.le_toInt
  have hhigh := days.toInt_lt
  have hcount : (UInt64.ofNat days.toInt.natAbs).toNat = days.toInt.natAbs :=
    UInt64.toNat_ofNat_of_lt' (by simp only [UInt64.size]; omega)
  unfold dayStep
  split
  next hnonneg => rw [Date.laterDays, hcount, Int.natAbs_of_nonneg hnonneg]
  next hneg =>
    have habs : -(days.toInt.natAbs : Int) = days.toInt := by omega
    rw [Date.earlierDays, hcount, habs]

theorem span?_secondCount (i : Interval) : Instant.span? i.secondCount = some i.secondCount := by
  have := i.hours.le_toInt
  have := i.hours.toInt_lt
  have := i.minutes.le_toInt
  have := i.minutes.toInt_lt
  have := i.seconds.le_toInt
  have := i.seconds.toInt_lt
  refine if_pos ?_
  unfold secondCount
  omega

/-- The directions of a step come together in one shift by an integer. -/
theorem addTo_eq (i : Interval) (t : Instant) :
    i.addTo t = (t.date.addMonths i.shift.months).bind fun d₁ =>
      (d₁.addDays i.shift.days).bind fun d₂ =>
        { t with date := d₂ }.addSeconds i.shift.seconds := by
  simp only [addTo, monthStep_eq, dayStep_eq, span?_secondCount, Option.bind_eq_bind,
    Option.bind_some]
  rfl

/-- **Where an interval leads.** -/
theorem addTo_eq_some_iff {i : Interval} {t u : Instant} :
    i.addTo t = some u ↔
      i.shift.Lands t.date (t.startingSecond i.shift.seconds) u.date u.second ∧
        u.nanosecond = t.nanosecondAfter i.shift.seconds := by
  simp only [addTo_eq, Option.bind_eq_some_iff, Date.addMonths_eq_some_iff,
    Date.addDays, Date.ofDay?_eq_some_iff, Instant.addSeconds_eq_some_iff,
    Instant.totalSeconds_eq_iff]
  constructor
  · rintro ⟨d₁, h₁, d₂, h₂, hclock, hnanos⟩
    exact ⟨⟨d₁, d₂, h₁, h₂, hclock⟩, hnanos⟩
  · rintro ⟨⟨d₁, d₂, h₁, h₂, hclock⟩, hnanos⟩
    exact ⟨d₁, h₁, d₂, h₂, hclock, hnanos⟩

/-- **Where an interval does not lead.** -/
theorem addTo_eq_none_iff {i : Interval} {t : Instant} :
    i.addTo t = none ↔ i.shift.Leaves t.date (t.startingSecond i.shift.seconds) := by
  constructor
  · intro h
    -- the first step that gives no date is the one that leaves the calendar
    rw [addTo_eq] at h
    cases hmonths : t.date.addMonths i.shift.months with
    | none => exact .months (Date.addMonths_eq_none_iff.mp hmonths)
    | some d₁ =>
      have h₁ := Date.addMonths_eq_some_iff.mp hmonths
      rw [hmonths, Option.bind_some] at h
      cases hdays : d₁.addDays i.shift.days with
      | none => exact .days h₁ (Date.ofDay?_eq_none_iff.mp hdays)
      | some d₂ =>
        rw [hdays, Option.bind_some] at h
        exact .clock h₁ (Date.ofDay?_eq_some_iff.mp hdays) (Shift.addSeconds_eq_none_iff.mp h)
  · intro h
    -- up to the step that leaves the calendar, every step gives its date
    cases h with
    | months h => rw [addTo_eq, Date.addMonths_eq_none_iff.mpr h, Option.bind_none]
    | days h₁ h =>
      have hdays := Date.ofDay?_eq_none_iff.mpr h
      rw [addTo_eq, Date.addMonths_eq_some_iff.mpr h₁, Option.bind_some, Date.addDays, hdays,
        Option.bind_none]
    | clock h₁ h₂ h =>
      have hdays := Date.ofDay?_eq_some_iff.mpr h₂
      rw [addTo_eq, Date.addMonths_eq_some_iff.mpr h₁, Option.bind_some, Date.addDays, hdays,
        Option.bind_some]
      exact Shift.addSeconds_eq_none_iff.mpr h

theorem addTo_eq_some_iff_of_not_leap {i : Interval} {t u : Instant}
    (h : t.isLeapSecond = false) :
    i.addTo t = some u ↔
      i.shift.Lands t.date t.second u.date u.second ∧ u.nanosecond = t.nanosecond := by
  rw [addTo_eq_some_iff, Instant.startingSecond_of_not_leap h,
    Instant.nanosecondAfter_of_not_leap h]

theorem addTo_eq_none_iff_of_not_leap {i : Interval} {t : Instant} (h : t.isLeapSecond = false) :
    i.addTo t = none ↔ i.shift.Leaves t.date t.second := by
  rw [addTo_eq_none_iff, Instant.startingSecond_of_not_leap h]

theorem addToDate_eq_some_iff {i : Interval} {d e : Date} :
    i.addToDate d = some e ↔ ∃ second, i.shift.Lands d 0 e second := by
  unfold addToDate
  rw [Option.map_eq_some_iff]
  constructor
  · rintro ⟨u, hu, rfl⟩
    exact ⟨u.second, ((addTo_eq_some_iff_of_not_leap rfl).mp hu).1⟩
  · rintro ⟨second, h⟩
    exact ⟨⟨e, second, 0, h.second_lt, by decide⟩,
      (addTo_eq_some_iff_of_not_leap rfl).mpr ⟨h, rfl⟩, rfl⟩

theorem addToDate_eq_none_iff {i : Interval} {d : Date} :
    i.addToDate d = none ↔ i.shift.Leaves d 0 := by
  unfold addToDate
  rw [Option.map_eq_none_iff]
  exact addTo_eq_none_iff_of_not_leap rfl

/-- **The closed form of a shift.** Outside of leap seconds an interval leads to where its counts
lead, with the nanoseconds unchanged, and nowhere exactly if a step leaves the calendar. A date
moves as the instant at its start, of which the date alone counts. -/
theorem shift_closedForm (i : Interval) :
    (∀ t : Instant, t.isLeapSecond = false →
      (∀ u, i.addTo t = some u ↔
        i.shift.Lands t.date t.second u.date u.second ∧ u.nanosecond = t.nanosecond) ∧
        (i.addTo t = none ↔ i.shift.Leaves t.date t.second)) ∧
      ∀ d : Date,
        (∀ e, i.addToDate d = some e ↔ ∃ second, i.shift.Lands d 0 e second) ∧
          (i.addToDate d = none ↔ i.shift.Leaves d 0) := by
  constructor
  · intro t ht
    exact ⟨fun u => addTo_eq_some_iff_of_not_leap ht, addTo_eq_none_iff_of_not_leap ht⟩
  · intro d
    exact ⟨fun e => addToDate_eq_some_iff, addToDate_eq_none_iff⟩

/-- A month and a day ahead, and 35 hours back. -/
def monthAhead : Interval := { zero with months := 1, days := 1, hours := -35 }

/-- Ten o'clock and half a second on 31 January 2024. -/
def endOfJanuary : Instant where
  date := ⟨738915, by decide, by decide⟩
  second := 36000
  nanosecond := 500000000
  second_lt := by decide
  nanosecond_lt := by decide

/-- From the end of January to the end of February, on to March, and over midnight back to
23 o'clock on the last day but one of February. -/
theorem endOfJanuary_closedForm :
    endOfJanuary.isLeapSecond = false ∧
      ∃ u, monthAhead.addTo endOfJanuary = some u ∧
        (u.date.year = 2024 ∧ u.date.month = 2 ∧ u.date.dayOfMonth = 28 ∧ u.second = 82800) ∧
        monthAhead.shift.Lands endOfJanuary.date endOfJanuary.second u.date u.second ∧
          u.nanosecond = endOfJanuary.nanosecond := by
  have hmoved : monthAhead.addTo endOfJanuary = some
      ⟨⟨738943, by decide, by decide⟩, 82800, 500000000, by decide, by decide⟩ := by decide
  exact ⟨by decide, _, hmoved, by decide,
    (((shift_closedForm monthAhead).1 endOfJanuary (by decide)).1 _).mp hmoved⟩

/-! ## The other direction -/

def parts (i : Interval) : List Int32 := [i.years, i.months, i.days, i.hours, i.minutes, i.seconds]

/-- Whether a part is the least 32-bit integer, the only one without an opposite. -/
def HasLeastPart (i : Interval) : Prop := Int32.minValue ∈ i.parts

theorem zipWith_eq_some_iff {f : Int → Int → Int} {a b c : Interval} :
    zipWith f a b = some c ↔
      c.years.toInt = f a.years.toInt b.years.toInt ∧
        c.months.toInt = f a.months.toInt b.months.toInt ∧
        c.days.toInt = f a.days.toInt b.days.toInt ∧
        c.hours.toInt = f a.hours.toInt b.hours.toInt ∧
        c.minutes.toInt = f a.minutes.toInt b.minutes.toInt ∧
        c.seconds.toInt = f a.seconds.toInt b.seconds.toInt := by
  simp only [zipWith, Option.bind_eq_bind, Option.bind_eq_some_iff, int32?_eq_some_iff]
  constructor
  · rintro ⟨years, hyears, months, hmonths, days, hdays, hours, hhours, minutes, hminutes, seconds,
      hseconds, h⟩
    cases h
    exact ⟨hyears, hmonths, hdays, hhours, hminutes, hseconds⟩
  · rintro ⟨hyears, hmonths, hdays, hhours, hminutes, hseconds⟩
    exact ⟨c.years, hyears, c.months, hmonths, c.days, hdays, c.hours, hhours, c.minutes, hminutes,
      c.seconds, hseconds, rfl⟩

theorem exists_opposite_iff {x : Int32} :
    (∃ y : Int32, y.toInt = (0 : Int32).toInt - x.toInt) ↔ x ≠ Int32.minValue := by
  have hzero : (0 : Int32).toInt = 0 := rfl
  have hlow := x.le_toInt
  have hhigh := x.toInt_lt
  rw [Ne, ← Int32.toInt_inj, Int32.toInt_minValue]
  constructor
  · rintro ⟨y, hy⟩ hleast
    have := y.toInt_lt
    omega
  · intro hleast
    refine ⟨Int32.ofInt (-x.toInt), ?_⟩
    rw [Int32.toInt_ofInt_of_le (by omega) (by omega)]
    omega

theorem shift_of_neg {i j : Interval} (h : i.neg = some j) : j.shift = i.shift.back := by
  obtain ⟨hyears, hmonths, hdays, hhours, hminutes, hseconds⟩ := zipWith_eq_some_iff.mp h
  have hzero : (0 : Int32).toInt = 0 := rfl
  simp only [zero, hzero] at hyears hmonths hdays hhours hminutes hseconds
  simp only [shift, Shift.back, Shift.mk.injEq]
  omega

theorem neg_cases (i : Interval) :
    i.HasLeastPart ∧ i.neg = none ∨
      ¬i.HasLeastPart ∧ ∃ j, i.neg = some j ∧ j.shift = i.shift.back := by
  -- the opposite is found part by part
  have hparts : (∃ j, i.neg = some j) ↔ ∀ x ∈ i.parts, x ≠ Int32.minValue := by
    simp only [neg, zipWith_eq_some_iff, parts, List.forall_mem_cons, ← exists_opposite_iff]
    constructor
    · rintro ⟨j, hyears, hmonths, hdays, hhours, hminutes, hseconds⟩
      exact ⟨⟨_, hyears⟩, ⟨_, hmonths⟩, ⟨_, hdays⟩, ⟨_, hhours⟩, ⟨_, hminutes⟩, ⟨_, hseconds⟩,
        nofun⟩
    · rintro ⟨⟨years, hyears⟩, ⟨months, hmonths⟩, ⟨days, hdays⟩, ⟨hours, hhours⟩,
        ⟨minutes, hminutes⟩, ⟨seconds, hseconds⟩, -⟩
      exact ⟨⟨years, months, days, hours, minutes, seconds⟩, hyears, hmonths, hdays, hhours,
        hminutes, hseconds⟩
  by_cases hleast : i.HasLeastPart
  · refine .inl ⟨hleast, ?_⟩
    cases hneg : i.neg with
    | none => rfl
    | some j => exact absurd rfl (hparts.mp ⟨j, hneg⟩ _ hleast)
  · have hnone : ∀ x ∈ i.parts, x ≠ Int32.minValue := by
      rintro x hx rfl
      exact hleast hx
    obtain ⟨j, hneg⟩ := hparts.mpr hnone
    exact .inr ⟨hleast, j, hneg, shift_of_neg hneg⟩

theorem subtractFrom_eq_some_iff {i : Interval} {t u : Instant} :
    i.subtractFrom t = some u ↔ ¬i.HasLeastPart ∧
      i.shift.back.Lands t.date (t.startingSecond i.shift.back.seconds) u.date u.second ∧
        u.nanosecond = t.nanosecondAfter i.shift.back.seconds := by
  unfold subtractFrom
  rcases i.neg_cases with ⟨hleast, hneg⟩ | ⟨hleast, j, hneg, hshift⟩
  · simp [hneg, hleast]
  · simp [hneg, hleast, addTo_eq_some_iff, hshift]

theorem subtractFrom_eq_none_iff {i : Interval} {t : Instant} :
    i.subtractFrom t = none ↔ i.HasLeastPart ∨
      i.shift.back.Leaves t.date (t.startingSecond i.shift.back.seconds) := by
  unfold subtractFrom
  rcases i.neg_cases with ⟨hleast, hneg⟩ | ⟨hleast, j, hneg, hshift⟩
  · simp [hneg, hleast]
  · simp [hneg, hleast, addTo_eq_none_iff, hshift]

theorem subtractFromDate_eq_some_iff {i : Interval} {d e : Date} :
    i.subtractFromDate d = some e ↔
      ¬i.HasLeastPart ∧ ∃ second, i.shift.back.Lands d 0 e second := by
  unfold subtractFromDate
  rcases i.neg_cases with ⟨hleast, hneg⟩ | ⟨hleast, j, hneg, hshift⟩
  · simp [hneg, hleast]
  · simp [hneg, hleast, addToDate_eq_some_iff, hshift]

theorem subtractFromDate_eq_none_iff {i : Interval} {d : Date} :
    i.subtractFromDate d = none ↔ i.HasLeastPart ∨ i.shift.back.Leaves d 0 := by
  unfold subtractFromDate
  rcases i.neg_cases with ⟨hleast, hneg⟩ | ⟨hleast, j, hneg, hshift⟩
  · simp [hneg, hleast]
  · simp [hneg, hleast, addToDate_eq_none_iff, hshift]

end Interval

/-! ## Subtraction -/

namespace ArithmeticRule

variable (env : Environment) (ctx : Context) (target leftType rightType : TypeDecl)

/-- **Subtraction of an interval.** Behind a date or an instant, MINUS yields the point to which the
negated counts lead, unless a part of the interval has no opposite; and it fails, always with an
overflow, only if there is such a part or a step leaves the calendar. -/
theorem minus_interval (i : Interval) :
    (∀ d : Date,
      (∀ v, date.calculate env ctx target leftType rightType (.date d) (.interval i) .minus =
          .ok v ↔
        ∃ e, v = .date e ∧ ¬i.HasLeastPart ∧ ∃ second, i.shift.back.Lands d 0 e second) ∧
      ∀ error,
        date.calculate env ctx target leftType rightType (.date d) (.interval i) .minus =
          .error error ↔
        error = .overflow (.apply .minus (.date d) (.interval i)) ∧
          (i.HasLeastPart ∨ i.shift.back.Leaves d 0)) ∧
    ∀ t : Instant,
      (∀ v, timestamp.calculate env ctx target leftType rightType (.instant t) (.interval i)
          .minus = .ok v ↔
        ∃ u, v = .instant u ∧ ¬i.HasLeastPart ∧
          i.shift.back.Lands t.date (t.startingSecond i.shift.back.seconds) u.date u.second ∧
            u.nanosecond = t.nanosecondAfter i.shift.back.seconds) ∧
      ∀ error,
        timestamp.calculate env ctx target leftType rightType (.instant t) (.interval i) .minus =
          .error error ↔
        error = .overflow (.apply .minus (.instant t) (.interval i)) ∧
          (i.HasLeastPart ∨
            i.shift.back.Leaves t.date (t.startingSecond i.shift.back.seconds)) := by
  refine ⟨fun d => ?_, fun t => ?_⟩
  -- both interpreters hand MINUS to the interval, and report nothing but what it could not do
  · have hrule : date.calculate env ctx target leftType rightType (.date d) (.interval i) .minus =
        orOverflow .minus (.date d) (.interval i) ((i.subtractFromDate d).map .date) := rfl
    rw [hrule]
    constructor
    · intro v
      simp only [orOverflow_map_eq_ok_iff, Interval.subtractFromDate_eq_some_iff]
    · intro error
      rw [orOverflow_map_eq_error_iff, Interval.subtractFromDate_eq_none_iff]
  · have hrule : timestamp.calculate env ctx target leftType rightType (.instant t) (.interval i)
        .minus = orOverflow .minus (.instant t) (.interval i) ((i.subtractFrom t).map .instant) :=
      rfl
    rw [hrule]
    constructor
    · intro v
      simp only [orOverflow_map_eq_ok_iff, Interval.subtractFrom_eq_some_iff]
    · intro error
      rw [orOverflow_map_eq_error_iff, Interval.subtractFrom_eq_none_iff]

/-- Minus 2^31 seconds. -/
def leastSeconds : Interval := { Interval.zero with seconds := Int32.minValue }

/-- 1 January 2024. -/
def newYear : Date := ⟨738885, by decide, by decide⟩

/-- 19 January 2092, 2^31 seconds behind the start of 2024. -/
def newYearLater : Date := ⟨763740, by decide, by decide⟩

/-- Backward, 2^31 negative seconds lead from the start of 2024 to an ordinary date, but the
subtraction overflows: their number has no opposite. -/
theorem minus_leastSeconds :
    leastSeconds.shift.back.Lands newYear 0 newYearLater 11648 ∧
      date.calculate .utc .empty Standard.date Standard.date Standard.interval (.date newYear)
          (.interval leastSeconds) .minus =
        .error (.overflow (.apply .minus (.date newYear) (.interval leastSeconds))) :=
  ⟨⟨newYear, newYear, ⟨by decide, by decide⟩, by decide, by decide, by decide⟩, rfl⟩

end ArithmeticRule

end TypedExpr
