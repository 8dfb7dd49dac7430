import TypedExpr.Proofs.IntervalShift

/-!
# Shifts and the order of dates

Shifts keep the order of dates, forward and backward: each step does. Dates may fall together, where
a month is too short or the clock turns back into the day before, but they never change places.

For the same reason a shift by months alone cannot be undone at the end of a month. There and back
it leads to the month of the start, and within it to the day of the start or to the last day that
the month in between has.
-/

namespace TypedExpr

open Calendar

theorem Date.isLE_compare {d e : Date} : (d.compare e).isLE ↔ d.day ≤ e.day := Int.isLE_compare

theorem Shift.Lands.mono {s : Shift} {d e d' e' : Date} {second dSecond eSecond : Nat}
    (hd : s.Lands d second d' dSecond) (he : s.Lands e second e' eSecond) (h : d.day ≤ e.day) :
    d'.day ≤ e'.day := by
  obtain ⟨d₁, d₂, hdMonths, hdDays, hdDate, -⟩ := hd
  obtain ⟨e₁, e₂, heMonths, heDays, heDate, -⟩ := he
  -- each step keeps the order that the step before left
  have hmonths : d₁.day ≤ e₁.day := hdMonths.mono heMonths h
  have hdays : d₂.day ≤ e₂.day := by omega
  have hclock : s.clock d₂ second ≤ s.clock e₂ second := by
    unfold Shift.clock secondsPerDay
    omega
  rw [hdDate, heDate]
  exact Int.ediv_le_ediv (by decide) hclock

theorem Shift.Lands.isMonthsLater {s : Shift} {d e : Date} {second : Nat}
    (h : s.Lands d 0 e second) (hdays : s.days = 0) (hseconds : s.seconds = 0) :
    d.IsMonthsLater s.months e := by
  obtain ⟨d₁, d₂, hmonths, hday, hdate, -⟩ := h
  -- the two steps that are left stay where they are
  have hsame : e = d₁ := by
    apply Date.ext
    unfold clock secondsPerDay at hdate
    omega
  exact hsame ▸ hmonths

namespace Interval

/-- **Monotone shifts.** Of two dates the earlier one is not moved behind the later one, neither
forward nor backward. -/
theorem dates_in_order (i : Interval) {d e : Date} (h : (d.compare e).isLE) :
    (∀ d' e', i.addToDate d = some d' → i.addToDate e = some e' → (d'.compare e').isLE) ∧
      ∀ d' e', i.subtractFromDate d = some d' → i.subtractFromDate e = some e' →
        (d'.compare e').isLE := by
  rw [Date.isLE_compare] at h
  constructor
  · intro d' e' hd he
    obtain ⟨dSecond, hd⟩ := addToDate_eq_some_iff.mp hd
    obtain ⟨eSecond, he⟩ := addToDate_eq_some_iff.mp he
    exact Date.isLE_compare.mpr (hd.mono he h)
  · intro d' e' hd he
    obtain ⟨-, dSecond, hd⟩ := subtractFromDate_eq_some_iff.mp hd
    obtain ⟨-, eSecond, he⟩ := subtractFromDate_eq_some_iff.mp he
    exact Date.isLE_compare.mpr (hd.mono he h)

/-- A month ahead, and an hour back. -/
def monthLessAnHour : Interval := { zero with months := 1, hours := -1 }

def january28 : Date := ⟨738547, by decide, by decide⟩

def january31 : Date := ⟨738550, by decide, by decide⟩

/-- Three days apart, the dates fall together on the eve of the last day of February. -/
theorem january_in_order :
    (january28.compare january31).isLE ∧
      ∃ d e, monthLessAnHour.addToDate january28 = some d ∧
        monthLessAnHour.addToDate january31 = some e ∧
        (e.year = 2023 ∧ e.month = 2 ∧ e.dayOfMonth = 27) ∧ (d.compare e).isLE := by
  have hle : (january28.compare january31).isLE := rfl
  have hmoved : monthLessAnHour.addToDate january28 =
      some ⟨738577, by decide, by decide⟩ := by decide
  have hmoved' : monthLessAnHour.addToDate january31 =
      some ⟨738577, by decide, by decide⟩ := by decide
  exact ⟨hle, _, _, hmoved, hmoved', by decide,
    (dates_in_order monthLessAnHour hle).1 _ _ hmoved hmoved'⟩

/-- Whether an interval has years and months alone. -/
def IsCalendrical (i : Interval) : Prop :=
  i.days = 0 ∧ i.hours = 0 ∧ i.minutes = 0 ∧ i.seconds = 0

theorem IsCalendrical.shift_eq {i : Interval} (h : i.IsCalendrical) :
    i.shift.days = 0 ∧ i.shift.seconds = 0 := by
  obtain ⟨hdays, hhours, hminutes, hseconds⟩ := h
  unfold shift
  rw [hdays, hhours, hminutes, hseconds]
  exact ⟨rfl, rfl⟩

/-- **There and back.** An interval of years and months, added to a date and subtracted again, leads
back to the month of the start, and to its day or, where the month in between is shorter, to the
number of that month's last day. So the way back ends at the start if that is a 28th or earlier, and
never more than three days before it. -/
theorem months_there_and_back {i : Interval} (hi : i.IsCalendrical) {d e d' : Date}
    (he : i.addToDate d = some e) (hd' : i.subtractFromDate e = some d') :
    (d'.year = d.year ∧ d'.month = d.month ∧
        d'.dayOfMonth = min d.dayOfMonth (daysInMonth e.year e.month)) ∧
      (d.dayOfMonth ≤ 28 → d' = d) ∧ d'.day ≤ d.day ∧ d.day ≤ d'.day + 3 := by
  obtain ⟨hdays, hseconds⟩ := hi.shift_eq
  have hthere : d.IsMonthsLater i.shift.months e := by
    obtain ⟨second, hlands⟩ := addToDate_eq_some_iff.mp he
    exact hlands.isMonthsLater hdays hseconds
  have hback : e.IsMonthsLater (-i.shift.months) d' := by
    obtain ⟨-, second, hlands⟩ := subtractFromDate_eq_some_iff.mp hd'
    refine hlands.isMonthsLater ?_ ?_
    · show -i.shift.days = 0
      rw [hdays, Int.neg_zero]
    · show -i.shift.seconds = 0
      rw [hseconds, Int.neg_zero]
  obtain ⟨hmonth, hday⟩ := hthere.back hback
  -- no month is shorter than 28 days, and none longer than 31
  have hlength := (monthLength_bounds e.monthIndex).1
  have hle := d.dayOfMonth_le
  have hcut : d'.day = d.day - d.dayOfMonth + d'.dayOfMonth := by
    rw [d'.day_eq, d.day_eq, hmonth]
    omega
  rw [e.monthLength_eq] at hlength
  refine ⟨⟨?_, ?_, hday⟩, fun hearly => ?_, ?_, ?_⟩
  · rw [d'.year_eq, d.year_eq, hmonth]
  · rw [d'.month_eq, d.month_eq, hmonth]
  · exact Date.eq_of_monthIndex hmonth (by omega)
  · omega
  · omega

def yearAndMonth : Interval := { zero with years := 1, months := 1 }

/-- From 31 January to the end of February, and back no further than to 28 January. -/
theorem january31_there_and_back :
    yearAndMonth.IsCalendrical ∧
      ∃ e d', yearAndMonth.addToDate endOfJanuary.date = some e ∧
        yearAndMonth.subtractFromDate e = some d' ∧
        (e.year = 2025 ∧ e.month = 2 ∧ e.dayOfMonth = 28) ∧
        d'.dayOfMonth = min endOfJanuary.date.dayOfMonth (daysInMonth e.year e.month) := by
  have hcalendrical : yearAndMonth.IsCalendrical := ⟨rfl, rfl, rfl, rfl⟩
  have hthere : yearAndMonth.addToDate endOfJanuary.date =
      some ⟨739309, by decide, by decide⟩ := by decide
  have hback : yearAndMonth.subtractFromDate ⟨739309, by decide, by decide⟩ =
      some ⟨738912, by decide, by decide⟩ := by decide
  exact ⟨hcalendrical, _, _, hthere, hback, by decide,
    (months_there_and_back hcalendrical hthere hback).1.2.2⟩

end Interval

end TypedExpr
