import TypedExpr.Proofs.ShiftOrder

/-!
# Shifts of a fixed length

Months and years have no fixed length, but days of an instant have 86400 seconds, so an interval
without calendar months is a number of seconds. It moves every instant by that number, backward by
its opposite, and two of them move an instant as far as their sum does. Leap seconds stay out: there
the clock stands still for a second.
-/

namespace TypedExpr

theorem Date.IsMonthsLater.eq_self {d e : Date} (h : d.IsMonthsLater 0 e) : e = d := by
  have hmonth : e.monthIndex = d.monthIndex := by
    rw [h.monthIndex_eq, Int.add_zero]
  -- the month is the same, so the day is not cut
  have hbounds := d.dayOfMonth_bounds
  refine eq_of_monthIndex hmonth ?_
  rw [h.dayOfMonth_eq, ← e.monthLength_eq, hmonth]
  omega

namespace Shift

/-- The seconds that a shift without months takes. -/
def length (s : Shift) : Int := 86400 * s.days + s.seconds

theorem length_back (s : Shift) : s.back.length = -s.length := by
  show 86400 * -s.days + -s.seconds = -(86400 * s.days + s.seconds)
  omega

theorem Lands.length {s : Shift} {d e : Date} {second eSecond : Nat}
    (h : s.Lands d second e eSecond) (hmonths : s.months = 0) :
    e.day * secondsPerDay + eSecond = d.day * secondsPerDay + second + s.length := by
  obtain ⟨d₁, d₂, hlater, hday, hdate, hsecond⟩ := h
  rw [hmonths] at hlater
  -- quotient and remainder make up the count of seconds again
  have hclock : e.day * secondsPerDay + eSecond = s.clock d₂ second := by
    rw [hdate, hsecond, Int.ediv_mul_add_emod]
  rw [hclock, clock, hday, hlater.eq_self]
  unfold Shift.length secondsPerDay
  omega

end Shift

namespace Interval

/-- Whether an interval has no calendar months. -/
def IsUniform (i : Interval) : Prop := i.years = 0 ∧ i.months = 0

theorem length_shift (i : Interval) : i.shift.length =
    86400 * i.days.toInt + 3600 * i.hours.toInt + 60 * i.minutes.toInt + i.seconds.toInt := by
  show 86400 * i.days.toInt +
    (3600 * i.hours.toInt + 60 * i.minutes.toInt + i.seconds.toInt) = _
  omega

theorem IsUniform.months_shift {i : Interval} (h : i.IsUniform) : i.shift.months = 0 := by
  unfold shift
  rw [h.1, h.2]
  rfl

theorem IsUniform.add {a b c : Interval} (ha : a.IsUniform) (hb : b.IsUniform)
    (h : a.add b = some c) : c.IsUniform ∧ c.shift.length = a.shift.length + b.shift.length := by
  obtain ⟨hyears, hmonths, hdays, hhours, hminutes, hseconds⟩ := zipWith_eq_some_iff.mp h
  rw [ha.1, hb.1] at hyears
  rw [ha.2, hb.2] at hmonths
  refine ⟨⟨Int32.toInt_inj.mp hyears, Int32.toInt_inj.mp hmonths⟩, ?_⟩
  rw [length_shift, length_shift, length_shift]
  omega

theorem IsUniform.addTo {i : Interval} (hi : i.IsUniform) {t u : Instant}
    (ht : t.isLeapSecond = false) (h : i.addTo t = some u) :
    u.totalSeconds = t.totalSeconds + i.shift.length ∧ u.nanosecond = t.nanosecond := by
  obtain ⟨hlands, hnanos⟩ := (addTo_eq_some_iff_of_not_leap ht).mp h
  exact ⟨hlands.length hi.months_shift, hnanos⟩

theorem IsUniform.subtractFrom {i : Interval} (hi : i.IsUniform) {t u : Instant}
    (ht : t.isLeapSecond = false) (h : i.subtractFrom t = some u) :
    u.totalSeconds = t.totalSeconds - i.shift.length ∧ u.nanosecond = t.nanosecond := by
  obtain ⟨-, hlands, hnanos⟩ := subtractFrom_eq_some_iff.mp h
  rw [Instant.startingSecond_of_not_leap ht] at hlands
  rw [Instant.nanosecondAfter_of_not_leap ht] at hnanos
  have hmonths : i.shift.back.months = 0 := by
    show -i.shift.months = 0
    rw [hi.months_shift, Int.neg_zero]
  have hlength := hlands.length hmonths
  rw [Shift.length_back] at hlength
  exact ⟨hlength, hnanos⟩

/-- **Shifts of a fixed length add up.** Outside of leap seconds an interval without calendar months
takes an instant ahead by exactly its length and leaves the part of the second as it is. Backward it
leads to the instant that it came from, and one such interval after the other leads where their sum
leads. -/
theorem uniform_shifts_add_up {a : Interval} (ha : a.IsUniform) {t u : Instant}
    (ht : t.isLeapSecond = false) (hu : a.addTo t = some u) :
    (u.totalSeconds - t.totalSeconds =
        86400 * a.days.toInt + 3600 * a.hours.toInt + 60 * a.minutes.toInt + a.seconds.toInt ∧
      u.nanosecond = t.nanosecond) ∧
      (∀ s, a.subtractFrom u = some s → s = t) ∧
      ∀ b c v w, b.IsUniform → a.add b = some c → b.addTo u = some v → c.addTo t = some w →
        v = w := by
  obtain ⟨hseconds, hnanos⟩ := ha.addTo ht hu
  have hleap : u.isLeapSecond = false := by
    unfold Instant.isLeapSecond at ht ⊢
    rw [hnanos, ht]
  refine ⟨⟨?_, hnanos⟩, fun s hs => ?_, fun b c v w hb hc hv hw => ?_⟩
  · rw [← a.length_shift]
    omega
  · obtain ⟨hback, hbackNanos⟩ := ha.subtractFrom hleap hs
    exact Instant.eq_of_totalSeconds (by omega) (hbackNanos.trans hnanos)
  · obtain ⟨hcUniform, hcLength⟩ := ha.add hb hc
    obtain ⟨hvSeconds, hvNanos⟩ := hb.addTo hleap hv
    obtain ⟨hwSeconds, hwNanos⟩ := hcUniform.addTo ht hw
    exact Instant.eq_of_totalSeconds (by omega) ((hvNanos.trans hnanos).trans hwNanos.symm)

/-- A day ahead, and 25 hours, 59 minutes and 61 seconds back. -/
def dayLessMore : Interval := { zero with days := 1, hours := -25, minutes := -59, seconds := -61 }

/-- Two days back, and 49 hours ahead. -/
def backAndOn : Interval := { zero with days := -2, hours := 49 }

/-- From ten o'clock and half a second two hours and a second back, then an hour ahead: days and clock
carry into each other, and the sum of the intervals takes the same way at once. -/
theorem endOfJanuary_uniform :
    dayLessMore.IsUniform ∧ backAndOn.IsUniform ∧ endOfJanuary.isLeapSecond = false ∧
      ∃ u v c w, dayLessMore.addTo endOfJanuary = some u ∧ backAndOn.addTo u = some v ∧
        dayLessMore.add backAndOn = some c ∧ c.addTo endOfJanuary = some w ∧
        dayLessMore.subtractFrom u = some endOfJanuary ∧
        u.totalSeconds - endOfJanuary.totalSeconds = -7201 ∧ v = w := by
  have hfirst : dayLessMore.addTo endOfJanuary =
      some { endOfJanuary with second := 28799, second_lt := by decide } := by decide
  have hthen : backAndOn.addTo { endOfJanuary with second := 28799, second_lt := by decide } =
      some { endOfJanuary with second := 32399, second_lt := by decide } := by decide
  have hsum : dayLessMore.add backAndOn =
      some { zero with days := -1, hours := 24, minutes := -59, seconds := -61 } := by decide
  have honce : addTo { zero with days := -1, hours := 24, minutes := -59, seconds := -61 }
      endOfJanuary = some { endOfJanuary with second := 32399, second_lt := by decide } := by decide
  obtain ⟨⟨hseconds, -⟩, -, hadd⟩ :=
    uniform_shifts_add_up (a := dayLessMore) ⟨rfl, rfl⟩ (by decide) hfirst
  exact ⟨⟨rfl, rfl⟩, ⟨rfl, rfl⟩, by decide, _, _, _, _, hfirst, hthen, hsum, honce, by decide,
    hseconds.trans (by decide), hadd _ _ _ _ ⟨rfl, rfl⟩ hsum hthen honce⟩

end Interval

end TypedExpr
