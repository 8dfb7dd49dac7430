import TypedExpr.Proofs.TemporalOrder

/-!
# Instants on a line

Instants stand in their order like integers: each second has room for the nanoseconds of two, so that a
leap second lies between the second that it follows and the next one. From this come the latest
instant of a sort up to a given one, and how the start of the day and the date of an instant belong
together: a date starts no later than an instant exactly if it is not after the date of the instant.
-/

namespace TypedExpr

namespace Instant

/-! ## The line -/

/-- The place of an instant on the line. -/
def place (t : Instant) : Int := t.totalSeconds * (2 * nanosPerSecond) + t.nanosecond

theorem place_injective {s t : Instant} (h : s.place = t.place) : s = t := by
  have hs := s.nanosecond_lt
  have ht := t.nanosecond_lt
  unfold place nanosPerSecond at *
  exact eq_of_totalSeconds (by omega) (by omega)

theorem compare_eq_lt_of_place_lt {s t : Instant} (h : s.place < t.place) :
    s.compare t = .lt := by
  have hs := s.nanosecond_lt
  have ht := t.nanosecond_lt
  unfold place nanosPerSecond at *
  by_cases hseconds : s.totalSeconds < t.totalSeconds
  · exact compare_eq_lt_of_totalSeconds_lt hseconds
  · -- date and second are the same, so it is the nanoseconds that differ
    have hsame : s.totalSeconds = t.totalSeconds := by omega
    obtain ⟨hday, hclock⟩ := totalSeconds_eq_iff.mp hsame
    obtain ⟨hday', hclock'⟩ := totalSeconds_eq_iff.mp (rfl : t.totalSeconds = t.totalSeconds)
    have hdate : s.date = t.date := Date.ext (hday.trans hday'.symm)
    have hsecond : s.second = t.second := by omega
    have hnanos : s.nanosecond < t.nanosecond := by omega
    rw [Instant.compare, hdate, hsecond, show t.date.compare t.date = .eq from Std.ReflCmp.compare_self,
      show Ord.compare t.second t.second = .eq from Std.ReflCmp.compare_self,
      Nat.compare_eq_lt.mpr hnanos]
    rfl

/-- Two instants compare like their places. -/
theorem compare_eq_compare_place (s t : Instant) :
    s.compare t = Ord.compare s.place t.place := by
  rcases Int.lt_trichotomy s.place t.place with h | h | h
  · rw [compare_eq_lt_of_place_lt h, Int.compare_eq_lt.mpr h]
  · rw [place_injective h, show t.compare t = .eq from Std.ReflCmp.compare_self,
      Int.compare_eq_eq.mpr rfl]
  · rw [← t.compare_swap s, compare_eq_lt_of_place_lt h, Int.compare_eq_gt.mpr h]
    rfl

theorem isLE_compare_iff {s t : Instant} : (s.compare t).isLE ↔ s.place ≤ t.place := by
  rw [compare_eq_compare_place]
  exact Int.isLE_compare

theorem compare_eq_eq_iff {s t : Instant} : s.compare t = .eq ↔ s = t := by
  rw [compare_eq_compare_place, Int.compare_eq_eq]
  constructor
  · exact place_injective
  · rintro rfl
    rfl

/-- The latest instant with the property that is not after the given one. -/
structure IsLatest (P : Instant → Prop) (t latest : Instant) : Prop where
  holds : P latest
  not_after : (latest.compare t).isLE
  not_before {s : Instant} (hs : P s) (hst : (s.compare t).isLE) : (s.compare latest).isLE

/-! ## Days -/

/-- The start of a day in UTC. -/
def IsMidnight (t : Instant) : Prop := t.second = 0 ∧ t.nanosecond = 0

theorem IsMidnight.eq_startOfDay {t : Instant} (h : t.IsMidnight) : t = startOfDay t.date := by
  obtain ⟨date, second, nanosecond, _, _⟩ := t
  obtain ⟨rfl, rfl⟩ := h
  rfl

/-- A date starts no later than an instant exactly if it is not after the date of the instant. -/
theorem isLE_startOfDay_compare (d : Date) (t : Instant) :
    ((startOfDay d).compare t).isLE = (d.compare t.date).isLE := by
  have hnanos := t.nanosecond_lt
  have hsecond := t.second_lt
  rw [Bool.eq_iff_iff, isLE_compare_iff]
  show _ ↔ (Ord.compare d.day t.date.day).isLE
  rw [Int.isLE_compare, place, totalSeconds_startOfDay]
  show d.day * secondsPerDay * (2 * nanosPerSecond) + (0 : Nat) ≤ t.place ↔ _
  unfold place totalSeconds secondsPerDay nanosPerSecond at *
  omega

/-- Midnights up to an instant are those of the days up to its date. -/
theorem isLatest_startOfDay (t : Instant) : IsLatest IsMidnight t (startOfDay t.date) where
  holds := ⟨rfl, rfl⟩
  not_after := by
    rw [isLE_startOfDay_compare]
    exact Std.ReflCmp.isLE_rfl
  not_before {s} hs hst := by
    rw [hs.eq_startOfDay, isLE_startOfDay_compare] at hst ⊢
    exact hst

end Instant

/-- **Dates beside instants.** The rule of calendar dates and the two converters belong together, also
at leap seconds and at both ends of the calendar: a date is compared with an instant as with the date
that the instant is converted to, as far as lower or equal and greater go, and equals just the instant
that it is converted to itself. A date survives the way to an instant and back; an instant becomes the
latest midnight that is not after it. -/
theorem date_instant_adjoint (env : Environment) (ctx : Context)
    (leftType rightType type : TypeDecl) (d : Date) (t : Instant) :
    ∃ e s u,
      Converter.instantToDate.convert env ctx (.instant t) type = .ok (.date e) ∧
      Converter.dateToInstant.convert env ctx (.date d) type = .ok (.instant s) ∧
      Converter.dateToInstant.convert env ctx (.date e) type = .ok (.instant u) ∧
      ComparisonRule.date.compare env ctx leftType rightType (.date d) (.instant t) .lowerOrEqual =
        .ok (some (decide (d.compare e ≠ .gt))) ∧
      ComparisonRule.date.compare env ctx leftType rightType (.date d) (.instant t) .greater =
        .ok (some (decide (d.compare e = .gt))) ∧
      ComparisonRule.date.compare env ctx leftType rightType (.date d) (.instant t) .equal =
        .ok (some (decide (s = t))) ∧
      Converter.instantToDate.convert env ctx (.instant s) type = .ok (.date d) ∧
      Instant.IsLatest Instant.IsMidnight t u := by
  have hanswer (op : ComparisonOperator) :
      ComparisonRule.date.compare env ctx leftType rightType (.date d) (.instant t) op =
        .ok (some (op.test ((Instant.startOfDay d).compare t))) := rfl
  have hafter : (Instant.startOfDay d).compare t = .gt ↔ d.compare t.date = .gt := by
    rw [← Ordering.isLE_eq_false, Instant.isLE_startOfDay_compare, Ordering.isLE_eq_false]
  refine ⟨t.date, .startOfDay d, .startOfDay t.date, rfl, rfl, rfl, ?_, ?_, ?_, rfl,
    t.isLatest_startOfDay⟩
  · rw [hanswer, decide_not, ← decide_eq_decide.mpr hafter]
    rfl
  · rw [hanswer, ← decide_eq_decide.mpr hafter]
    rfl
  · rw [hanswer, ← decide_eq_decide.mpr Instant.compare_eq_eq_iff]
    rfl

/-- The first of July 2015 comes after the leap second in front of it, which belongs to June. -/
example :
    ComparisonRule.date.compare .utc .empty Standard.date Standard.timestamp
      (.date ⟨735779, by decide, by decide⟩)
      (.instant ⟨⟨735778, by decide, by decide⟩, 86399, 1000000000, by decide, by decide⟩)
      .greater = .ok (some true) := rfl

end TypedExpr
