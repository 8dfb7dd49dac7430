import TypedExpr.Calendar.Date

/-!
# Year, month and day

The year, month and day that are read off a day number lead back to it. A year is the interval
between two starts of years, and a month one between two totals of lengths of months.
-/

namespace TypedExpr

namespace Calendar

/-! ## Years -/

/-- The number of days of a year. -/
def yearLength (year : Int) : Nat := if isLeapYear year then 366 else 365

theorem yearStart_succ (year : Int) : yearStart (year + 1) = yearStart year + yearLength year := by
  unfold yearLength
  cases hleap : isLeapYear year with
  | true =>
    simp only [isLeapYear, Bool.and_eq_true, Bool.or_eq_true, beq_iff_eq, bne_iff_ne] at hleap
    simp only [yearStart, if_true]
    omega
  | false =>
    simp only [isLeapYear, Bool.and_eq_false_iff, Bool.or_eq_false_iff, beq_eq_false_iff_ne,
      bne_eq_false_iff_eq] at hleap
    simp only [yearStart, Bool.false_eq_true, if_false]
    omega

/-- Years start where the mean length of a year has them, give or take two days: 400 years have
146097 days. -/
theorem yearStart_bounds (year : Int) :
    146097 * (year - 1) - 699 ≤ 400 * yearStart year ∧
      400 * yearStart year ≤ 146097 * (year - 1) + 396 := by
  unfold yearStart
  omega

/-- A day lies in the year that is read off it: the guess is wrong by one year at most. -/
theorem yearOf_bounds (n : Int) : yearStart (yearOf n) ≤ n ∧ n < yearStart (yearOf n + 1) := by
  unfold yearOf
  obtain ⟨guess, hguess⟩ : ∃ guess, 400 * n / 146097 + 1 = guess := ⟨_, rfl⟩
  have hlow := yearStart_bounds (guess - 1)
  have hhigh := yearStart_bounds (guess + 2)
  simp only [hguess]
  split
  next h =>
    rw [Int.sub_add_cancel]
    omega
  next h =>
    split
    next h' =>
      rw [Int.add_assoc, show (1 : Int) + 1 = 2 from rfl]
      omega
    next h' => omega

/-! ## Months -/

theorem total_monthLengths (year : Int) :
    (monthLengths (isLeapYear year)).foldl (· + ·) 0 = yearLength year := by
  unfold yearLength
  cases isLeapYear year <;> rfl

theorem bounds_of_mem_monthLengths {leap : Bool} {length : Nat} (h : length ∈ monthLengths leap) :
    28 ≤ length ∧ length ≤ 31 := by
  cases leap <;> revert length <;> decide

/-- A day lies in the month that is read off it, behind the months before. The days are counted on
from a start, as the months in front of the list have them. -/
theorem monthDay_spec {lengths : List Nat} {start rest : Nat}
    (h : start + rest < lengths.foldl (· + ·) start) (month : Nat) :
    ∃ before length, lengths[before]? = some length ∧
      ∃ day, monthDay lengths month rest = (month + before, day) ∧ 1 ≤ day ∧ day ≤ length ∧
        (lengths.take before).foldl (· + ·) start + day = start + rest + 1 := by
  induction lengths generalizing month start rest with
  | nil =>
    rw [List.foldl_nil] at h
    omega
  | cons length lengths ih =>
    rw [List.foldl_cons] at h
    unfold monthDay
    split
    next hlt =>
      refine ⟨0, length, rfl, rest + 1, rfl, by omega, by omega, ?_⟩
      rw [List.take_zero, List.foldl_nil, Nat.add_assoc]
    next hge =>
      have hrest : start + length + (rest - length) = start + rest := by omega
      rw [← hrest] at h ⊢
      obtain ⟨before, length', hget, day, hday, hone, hle, htotal⟩ := ih h (month + 1)
      refine ⟨before + 1, length', hget, day, ?_, hone, hle, ?_⟩
      · rw [hday, Nat.add_right_comm, Nat.add_assoc]
      · rw [List.take_succ_cons, List.foldl_cons, htotal]

end Calendar

open Calendar

namespace Date

variable (d : Date)

theorem dayOfYear_eq : (d.dayOfYear : Int) = d.day - yearStart d.year := by
  have := (yearOf_bounds d.day).1
  unfold dayOfYear year
  omega

theorem dayOfYear_lt : d.dayOfYear < yearLength d.year := by
  have hlt := (yearOf_bounds d.day).2
  have hsucc := yearStart_succ d.year
  have := d.dayOfYear_eq
  unfold year at *
  omega

/-- The month and the day of the month name a day of the year. -/
theorem monthDay_eq : ∃ before length,
    (monthLengths (isLeapYear d.year))[before]? = some length ∧
      d.month = before + 1 ∧ 1 ≤ d.dayOfMonth ∧ d.dayOfMonth ≤ length ∧
        daysBefore d.year d.month + d.dayOfMonth = d.dayOfYear + 1 := by
  have hlt : 0 + d.dayOfYear < (monthLengths (isLeapYear d.year)).foldl (· + ·) 0 := by
    rw [total_monthLengths, Nat.zero_add]
    exact d.dayOfYear_lt
  obtain ⟨before, length, hget, day, hday, hone, hle, htotal⟩ := monthDay_spec hlt 1
  have hmonth : d.month = before + 1 := (congrArg Prod.fst hday).trans (Nat.add_comm 1 before)
  have hdayOfMonth : d.dayOfMonth = day := congrArg Prod.snd hday
  refine ⟨before, length, hget, hmonth, ?_⟩
  rw [hmonth, hdayOfMonth, daysBefore, Nat.add_sub_cancel, htotal, Nat.zero_add]
  exact ⟨hone, hle, rfl⟩

theorem dayOfMonth_le_daysInMonth : d.dayOfMonth ≤ daysInMonth d.year d.month := by
  obtain ⟨before, length, hget, hmonth, -, hle, -⟩ := d.monthDay_eq
  rw [daysInMonth, hmonth, if_neg (Nat.succ_ne_zero before), Nat.add_sub_cancel, hget]
  exact hle

theorem dayNumber_eq : dayNumber d.year d.month d.dayOfMonth = d.day := by
  obtain ⟨-, -, -, -, -, -, hsum⟩ := d.monthDay_eq
  have := d.dayOfYear_eq
  unfold dayNumber
  omega

theorem one_le_month : 1 ≤ d.month := by
  obtain ⟨before, -, -, hmonth, -⟩ := d.monthDay_eq
  omega

theorem month_le : d.month ≤ 12 := by
  obtain ⟨before, length, hget, hmonth, -⟩ := d.monthDay_eq
  have hlt := (List.getElem?_eq_some_iff.mp hget).1
  have hlength : (monthLengths (isLeapYear d.year)).length = 12 := rfl
  omega

theorem one_le_dayOfMonth : 1 ≤ d.dayOfMonth := by
  obtain ⟨-, -, -, -, hone, -⟩ := d.monthDay_eq
  exact hone

theorem dayOfMonth_le : d.dayOfMonth ≤ 31 := by
  obtain ⟨before, length, hget, -, -, hle, -⟩ := d.monthDay_eq
  have := (bounds_of_mem_monthLengths (List.mem_of_getElem? hget)).2
  omega

/-- **Year, month and day** lead back to the date. -/
theorem ofYmd?_self : ofYmd? d.year d.month d.dayOfMonth = some d := by
  rw [ofYmd?, if_pos ⟨d.one_le_dayOfMonth, d.dayOfMonth_le_daysInMonth⟩, d.dayNumber_eq]
  exact ofDay?_eq_some_iff.mpr rfl

end Date

end TypedExpr
