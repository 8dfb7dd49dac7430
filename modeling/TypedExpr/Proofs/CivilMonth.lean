import TypedExpr.Proofs.CivilDate

/-!
# Months without end

Counted from January of year 0, the months follow each other without gap or overlap. So a date is
the number of its month together with a day of that month, dates are ordered by the month first,
and a shift by months leads to a date unless it leads to a year outside of the calendar.
-/

namespace TypedExpr

namespace Calendar

/-! ## Months -/

/-- The number of days of a month, with months counted from January of year 0. -/
def monthLength (index : Int) : Nat := daysInMonth (index / 12) ((index % 12).toNat + 1)

/-- The day number of the first day of a month. -/
def monthStart (index : Int) : Int := dayNumber (index / 12) ((index % 12).toNat + 1) 1

theorem dayNumber_first (year : Int) (month : Nat) :
    dayNumber year month 1 = yearStart year + daysBefore year month := by
  unfold dayNumber
  omega

theorem daysBefore_succ (year : Int) (month : Nat) :
    daysBefore year (month + 2) =
      daysBefore year (month + 1) + daysInMonth year (month + 1) := by
  show ((monthLengths (isLeapYear year)).take (month + 1)).foldl (· + ·) 0 =
    ((monthLengths (isLeapYear year)).take month).foldl (· + ·) 0 +
      ((monthLengths (isLeapYear year))[month]?).getD 0
  rw [List.take_add_one, List.foldl_append]
  cases (monthLengths (isLeapYear year))[month]? <;> rfl

theorem monthStart_succ (index : Int) :
    monthStart (index + 1) = monthStart index + monthLength index := by
  -- only the step from December to January changes the year
  obtain ⟨year, month, hlt, rfl⟩ :
      ∃ (year : Int) (month : Nat), month < 12 ∧ index = 12 * year + month :=
    ⟨index / 12, (index % 12).toNat, by omega, by omega⟩
  have hyear : (12 * year + month) / 12 = year := by omega
  have hmonth : ((12 * year + (month : Int)) % 12).toNat = month := by omega
  unfold monthStart monthLength
  rw [hyear, hmonth, dayNumber_first, dayNumber_first]
  by_cases hlast : month = 11
  · subst hlast
    have hnextYear : (12 * year + (11 : Nat) + 1) / 12 = year + 1 := by omega
    have hnextMonth : ((12 * year + ((11 : Nat) : Int) + 1) % 12).toNat = 0 := by omega
    have hbefore : daysBefore (year + 1) 1 = 0 := rfl
    have htotal : daysBefore year (11 + 2) = yearLength year := total_monthLengths year
    have hdecember := daysBefore_succ year 11
    rw [hnextYear, hnextMonth, yearStart_succ, hbefore]
    omega
  · have hnextYear : (12 * year + month + 1) / 12 = year := by omega
    have hnextMonth : ((12 * year + (month : Int) + 1) % 12).toNat = month + 1 := by omega
    rw [hnextYear, hnextMonth, daysBefore_succ]
    omega

theorem monthLength_bounds (index : Int) : 28 ≤ monthLength index ∧ monthLength index ≤ 31 := by
  unfold monthLength daysInMonth
  generalize hleap : isLeapYear (index / 12) = leap
  have hlt : (index % 12).toNat < (monthLengths leap).length := by
    show (index % 12).toNat < 12
    omega
  -- the position is in the list, so the length is one of its members
  rw [if_neg (Nat.succ_ne_zero _), Nat.add_sub_cancel, List.getElem?_eq_getElem hlt]
  exact bounds_of_mem_monthLengths (List.getElem_mem hlt)

/-- A month ends before any later one starts. -/
theorem monthEnd_le {earlier later : Int} (h : earlier < later) :
    monthStart earlier + monthLength earlier ≤ monthStart later := by
  obtain ⟨n, rfl⟩ : ∃ n : Nat, later = earlier + 1 + n := ⟨(later - earlier - 1).toNat, by omega⟩
  clear h
  -- by induction on the months in between
  induction n with
  | zero =>
    have hsucc := monthStart_succ earlier
    rw [Int.natCast_zero, Int.add_zero]
    omega
  | succ n ih =>
    have hsucc := monthStart_succ (earlier + 1 + n)
    rw [Int.natCast_succ, ← Int.add_assoc]
    omega

theorem monthStart_mono {a b : Int} (h : a ≤ b) : monthStart a ≤ monthStart b := by
  rcases Int.lt_or_eq_of_le h with hlt | rfl
  · have := monthEnd_le hlt
    omega
  · exact Int.le_refl _

theorem firstDay_eq : firstDay = monthStart (12 * (-262143)) := by decide

theorem lastDay_eq : lastDay = monthStart (12 * 262143) - 1 := by decide

end Calendar

open Calendar

namespace Date

/-! ## Dates by month -/

theorem ofDay?_eq_none_iff {n : Int} : ofDay? n = none ↔ n < firstDay ∨ lastDay < n := by
  unfold ofDay?
  split <;> simp <;> omega

section

variable (d : Date)

/-- The number of the month, counted from January of year 0. -/
def monthIndex : Int := 12 * d.year + d.month - 1

theorem year_eq : d.year = d.monthIndex / 12 := by
  have := d.one_le_month
  have := d.month_le
  unfold monthIndex
  omega

theorem month_eq : d.month = (d.monthIndex % 12).toNat + 1 := by
  have := d.one_le_month
  have := d.month_le
  unfold monthIndex
  omega

theorem monthLength_eq : monthLength d.monthIndex = daysInMonth d.year d.month := by
  rw [monthLength, ← d.year_eq, ← d.month_eq]

theorem day_eq : d.day = monthStart d.monthIndex + d.dayOfMonth - 1 := by
  have hday := d.dayNumber_eq
  rw [monthStart, ← d.year_eq, ← d.month_eq, ← hday]
  unfold dayNumber
  omega

theorem dayOfMonth_bounds : 1 ≤ d.dayOfMonth ∧ d.dayOfMonth ≤ monthLength d.monthIndex :=
  ⟨d.one_le_dayOfMonth, d.monthLength_eq ▸ d.dayOfMonth_le_daysInMonth⟩

theorem one_le_cut (index : Int) : 1 ≤ min d.dayOfMonth (monthLength index) := by
  have := d.one_le_dayOfMonth
  have := (monthLength_bounds index).1
  omega

end

/-- A date has only one month and only one day in it. -/
theorem monthIndex_unique {d : Date} {index : Int} {day : Nat} (hone : 1 ≤ day)
    (hle : day ≤ monthLength index) (h : d.day = monthStart index + day - 1) :
    d.monthIndex = index ∧ d.dayOfMonth = day := by
  have hday := d.day_eq
  have hbounds := d.dayOfMonth_bounds
  rcases Int.lt_trichotomy d.monthIndex index with hlt | heq | hgt
  · -- the month of the date would be over
    have := monthEnd_le hlt
    omega
  · rw [heq] at hday
    exact ⟨heq, by omega⟩
  · -- the month of the date would not have begun
    have := monthEnd_le hgt
    omega

theorem eq_of_monthIndex {d e : Date} (hmonth : d.monthIndex = e.monthIndex)
    (hday : d.dayOfMonth = e.dayOfMonth) : d = e := by
  apply Date.ext
  rw [d.day_eq, e.day_eq, hmonth, hday]

/-- Dates are ordered by their months, and within a month by their days. -/
theorem day_le_iff {d e : Date} : d.day ≤ e.day ↔
    d.monthIndex < e.monthIndex ∨
      d.monthIndex = e.monthIndex ∧ d.dayOfMonth ≤ e.dayOfMonth := by
  have hd := d.day_eq
  have he := e.day_eq
  have hdbounds := d.dayOfMonth_bounds
  have hebounds := e.dayOfMonth_bounds
  rcases Int.lt_trichotomy d.monthIndex e.monthIndex with hlt | heq | hgt
  · have := monthEnd_le hlt
    omega
  · rw [heq] at hd
    omega
  · have := monthEnd_le hgt
    omega

/-! ## Shifts by months -/

/-- The second date lies so many months behind the first, on the same day of the month or, where
that month is too short, on its last. -/
structure IsMonthsLater (d : Date) (months : Int) (e : Date) : Prop where
  monthIndex_eq : e.monthIndex = d.monthIndex + months
  dayOfMonth_eq : e.dayOfMonth = min d.dayOfMonth (daysInMonth e.year e.month)

theorem addMonths_eq (d : Date) (months : Int) :
    d.addMonths months = ofDay? (monthStart (d.monthIndex + months) +
      min d.dayOfMonth (monthLength (d.monthIndex + months)) - 1) := by
  have hindex : 12 * d.year + (d.month - 1 : Nat) + months = d.monthIndex + months := by
    have := d.one_le_month
    unfold monthIndex
    omega
  unfold addMonths
  simp only [hindex]
  -- a day that is cut to the month exists in it
  show ofYmd? _ _ (min d.dayOfMonth (monthLength (d.monthIndex + months))) = _
  rw [ofYmd?, if_pos ⟨d.one_le_cut _, Nat.min_le_right ..⟩]
  refine congrArg ofDay? ?_
  unfold monthStart dayNumber
  omega

/-- **A shift by months** leads to the date that lies so many months behind. -/
theorem addMonths_eq_some_iff {d e : Date} {months : Int} :
    d.addMonths months = some e ↔ d.IsMonthsLater months e := by
  rw [addMonths_eq, ofDay?_eq_some_iff]
  constructor
  · intro h
    obtain ⟨hindex, hday⟩ := monthIndex_unique (d.one_le_cut _) (Nat.min_le_right ..) h
    refine ⟨hindex, ?_⟩
    rw [← e.monthLength_eq, hindex, hday]
  · rintro ⟨hindex, hday⟩
    rw [e.day_eq, hday, ← e.monthLength_eq, hindex]

/-- **A shift by months** fails only where the year is outside of the calendar. -/
theorem addMonths_eq_none_iff {d : Date} {months : Int} :
    d.addMonths months = none ↔
      (d.monthIndex + months) / 12 < -262143 ∨ 262142 < (d.monthIndex + months) / 12 := by
  rw [addMonths_eq, ofDay?_eq_none_iff, firstDay_eq, lastDay_eq]
  have hone := d.one_le_dayOfMonth
  have hbounds := monthLength_bounds (d.monthIndex + months)
  generalize d.monthIndex + months = index at hbounds ⊢
  -- a calendar that ends between years has every day of a month or none of them
  constructor
  · intro h
    refine Decidable.byContradiction fun hinside => ?_
    have hfirst : monthStart (12 * (-262143)) ≤ monthStart index := monthStart_mono (by omega)
    have hlast : monthStart index + monthLength index ≤ monthStart (12 * 262143) :=
      monthEnd_le (by omega)
    omega
  · rintro (hearly | hlate)
    · have : monthStart index + monthLength index ≤ monthStart (12 * (-262143)) :=
        monthEnd_le (by omega)
      omega
    · have : monthStart (12 * 262143) ≤ monthStart index := monthStart_mono (by omega)
      omega

/-- Earlier dates stay earlier, or fall on the same last day of a month. -/
theorem IsMonthsLater.mono {d d' e e' : Date} {months : Int} (hd : d.IsMonthsLater months d')
    (he : e.IsMonthsLater months e') (h : d.day ≤ e.day) : d'.day ≤ e'.day := by
  have hdIndex := hd.monthIndex_eq
  have heIndex := he.monthIndex_eq
  rw [day_le_iff] at h ⊢
  -- dates of one month are cut to the same length
  rcases h with hmonth | ⟨hmonth, hday⟩
  · exact .inl (by omega)
  · have hsame : d'.monthIndex = e'.monthIndex := by omega
    refine .inr ⟨hsame, ?_⟩
    rw [hd.dayOfMonth_eq, he.dayOfMonth_eq, ← d'.monthLength_eq, ← e'.monthLength_eq, hsame]
    omega

/-- There and back: the month is the same again, and the day too if the month in between had it. -/
theorem IsMonthsLater.back {d e d' : Date} {months : Int} (he : d.IsMonthsLater months e)
    (hd' : e.IsMonthsLater (-months) d') :
    d'.monthIndex = d.monthIndex ∧
      d'.dayOfMonth = min d.dayOfMonth (daysInMonth e.year e.month) := by
  have hsame : d'.monthIndex = d.monthIndex := by
    rw [hd'.monthIndex_eq, he.monthIndex_eq]
    omega
  have hle := d.dayOfMonth_bounds.2
  refine ⟨hsame, ?_⟩
  rw [hd'.dayOfMonth_eq, he.dayOfMonth_eq, ← d'.monthLength_eq, hsame]
  omega

end Date

end TypedExpr
