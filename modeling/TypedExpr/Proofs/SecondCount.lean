import TypedExpr.Calendar.Instant
import TypedExpr.Proofs.CivilMonth

/-!
# Counting seconds

An instant is the count of its seconds from the start of day 0, together with its nanoseconds: date
and second of the day are quotient and remainder of the count. Letting seconds pass adds to the
count; it fails only where the day of the sum is outside of the calendar.
-/

namespace TypedExpr

open Calendar

namespace Instant

theorem totalSeconds_eq_iff {t : Instant} {total : Int} : t.totalSeconds = total ↔
    t.date.day = total / secondsPerDay ∧ (t.second : Int) = total % secondsPerDay := by
  have hsecond := t.second_lt
  unfold totalSeconds secondsPerDay at *
  omega

theorem totalSeconds_startOfDay (d : Date) :
    (startOfDay d).totalSeconds = d.day * secondsPerDay := by
  show d.day * secondsPerDay + (0 : Nat) = d.day * secondsPerDay
  omega

/-- Count and nanoseconds make up the instant that they were counted of, and no other. -/
theorem ofSeconds?_eq_some_iff {total : Int} {nanos : Nat} {hlt : nanos < 2 * nanosPerSecond}
    {t : Instant} :
    ofSeconds? total nanos hlt = some t ↔ t.totalSeconds = total ∧ t.nanosecond = nanos := by
  rw [totalSeconds_eq_iff]
  unfold ofSeconds?
  constructor
  · intro h
    obtain ⟨d, hd, rfl⟩ := Option.map_eq_some_iff.mp h
    have hpos : 0 ≤ total % secondsPerDay := Int.emod_nonneg total (by decide)
    exact ⟨⟨Date.ofDay?_eq_some_iff.mp hd, Int.toNat_of_nonneg hpos⟩, rfl⟩
  · rintro ⟨⟨hday, hsecond⟩, hnanos⟩
    have hdate : Date.ofDay? (total / secondsPerDay) = some t.date :=
      Date.ofDay?_eq_some_iff.mpr hday
    have htime : (total % secondsPerDay).toNat = t.second := by omega
    rw [hdate, Option.map_some]
    simp only [htime, ← hnanos]

/-- An instant is known by its count and its nanoseconds. -/
theorem eq_of_totalSeconds {t u : Instant} (hseconds : t.totalSeconds = u.totalSeconds)
    (hnanos : t.nanosecond = u.nanosecond) : t = u := by
  have ht : ofSeconds? u.totalSeconds u.nanosecond u.nanosecond_lt = some t :=
    ofSeconds?_eq_some_iff.mpr ⟨hseconds, hnanos⟩
  have hu : ofSeconds? u.totalSeconds u.nanosecond u.nanosecond_lt = some u :=
    ofSeconds?_eq_some_iff.mpr ⟨rfl, rfl⟩
  exact Option.some.inj (ht.symm.trans hu)

theorem ofSeconds?_eq_none_iff {total : Int} {nanos : Nat} {hlt : nanos < 2 * nanosPerSecond} :
    ofSeconds? total nanos hlt = none ↔
      total / secondsPerDay < firstDay ∨ lastDay < total / secondsPerDay := by
  unfold ofSeconds?
  rw [Option.map_eq_none_iff, Date.ofDay?_eq_none_iff]

theorem totalSeconds_of_offsetBy {t u : Instant} {seconds : Int}
    (h : t.offsetBy seconds = some u) : u.totalSeconds = t.totalSeconds + seconds :=
  (ofSeconds?_eq_some_iff.mp h).1

/-! ## Letting seconds pass -/

/-- The second of the day from which seconds pass. A leap second lies behind the second that it is
counted in, so toward the past it starts from the next one. -/
def startingSecond (t : Instant) (seconds : Int) : Nat :=
  if t.isLeapSecond ∧ seconds < 0 then t.second + 1 else t.second

/-- The nanoseconds once the seconds have passed: a leap second is left when the clock moves. -/
def nanosecondAfter (t : Instant) (seconds : Int) : Nat :=
  if t.isLeapSecond ∧ seconds ≠ 0 then t.nanosecond - nanosPerSecond else t.nanosecond

theorem startingSecond_withDate (t : Instant) (d : Date) (seconds : Int) :
    { t with date := d }.startingSecond seconds = t.startingSecond seconds := rfl

theorem startingSecond_of_not_leap {t : Instant} (h : t.isLeapSecond = false) (seconds : Int) :
    t.startingSecond seconds = t.second := by
  simp [startingSecond, h]

theorem nanosecondAfter_of_not_leap {t : Instant} (h : t.isLeapSecond = false) (seconds : Int) :
    t.nanosecondAfter seconds = t.nanosecond := by
  simp [nanosecondAfter, h]

theorem nanosecondAfter_lt (t : Instant) (seconds : Int) :
    t.nanosecondAfter seconds < 2 * nanosPerSecond := by
  have := t.nanosecond_lt
  unfold nanosecondAfter
  split <;> omega

theorem addSeconds_eq (t : Instant) (seconds : Int) :
    t.addSeconds seconds =
      ofSeconds? (t.date.day * secondsPerDay + t.startingSecond seconds + seconds)
        (t.nanosecondAfter seconds) (t.nanosecondAfter_lt seconds) := by
  unfold addSeconds
  split
  next hzero =>
    -- an instant that stays where it is keeps its leap second
    refine (ofSeconds?_eq_some_iff.mpr ⟨?_, ?_⟩).symm
    · simp [totalSeconds, startingSecond, hzero]
    · simp [nanosecondAfter, hzero]
  next hmoved =>
    split
    next hleap =>
      -- toward the past the count starts behind the leap second, toward the future in front of it
      have hstart : (if seconds < 0 then t.totalSeconds + 1 else t.totalSeconds) =
          t.date.day * secondsPerDay + t.startingSecond seconds := by
        unfold totalSeconds startingSecond
        by_cases hpast : seconds < 0
        · rw [if_pos hpast, if_pos ⟨hleap, hpast⟩]
          omega
        · rw [if_neg hpast, if_neg fun h => hpast h.2]
      simp [nanosecondAfter, hleap, hmoved, hstart]
    next hleap => simp [totalSeconds, startingSecond, nanosecondAfter, hleap, offsetBy]

theorem addSeconds_eq_some_iff {t u : Instant} {seconds : Int} :
    t.addSeconds seconds = some u ↔
      u.totalSeconds = t.date.day * secondsPerDay + t.startingSecond seconds + seconds ∧
        u.nanosecond = t.nanosecondAfter seconds := by
  rw [addSeconds_eq, ofSeconds?_eq_some_iff]

theorem addSeconds_eq_none_iff {t : Instant} {seconds : Int} :
    t.addSeconds seconds = none ↔
      (t.date.day * secondsPerDay + t.startingSecond seconds + seconds) / secondsPerDay < firstDay ∨
        lastDay <
          (t.date.day * secondsPerDay + t.startingSecond seconds + seconds) / secondsPerDay := by
  rw [addSeconds_eq, ofSeconds?_eq_none_iff]

end Instant

end TypedExpr
