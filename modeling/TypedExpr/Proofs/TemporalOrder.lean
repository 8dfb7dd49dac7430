import Mathlib.Logic.ExistsUnique
import TypedExpr.Proofs.OperandOrder
import TypedExpr.Proofs.SecondCount

/-!
# The temporal order

Dates and instants compared with each other stand in one linear order, although dates are compared
as days, a date beside an instant as the instant at which it starts, and an instant beside a date by
the date's own rule. The reason is that the start of the day embeds dates into instants: for the
type of calendar dates always, and for local dates in a zone in which later days start later.

The zones that are read from rule texts are of that kind, unless they move the clock by a day.
-/

namespace TypedExpr

/-! ## Orders -/

instance : Std.TransCmp Date.compare := inferInstanceAs (Std.TransCmp (compareOn Date.day))

instance : Std.TransCmp Instant.compare :=
  inferInstanceAs (Std.TransCmp (compareLex (compareOn fun t : Instant => t.date.day)
    (compareLex (compareOn Instant.second) (compareOn Instant.nanosecond))))

theorem Date.compare_eq_lt {d e : Date} : d.compare e = .lt ↔ d.day < e.day := Int.compare_eq_lt

theorem Date.eq_of_compare {d e : Date} (h : d.compare e = .eq) : d = e :=
  Date.ext (Int.compare_eq_eq.mp h)

namespace Instant

theorem compare_eq_lt_of_totalSeconds_lt {s t : Instant}
    (h : s.totalSeconds < t.totalSeconds) : s.compare t = .lt := by
  have hs := s.second_lt
  have ht := t.second_lt
  unfold totalSeconds secondsPerDay at *
  unfold Instant.compare
  rw [Ordering.then_eq_lt]
  by_cases hday : s.date.day < t.date.day
  · exact .inl (Date.compare_eq_lt.mpr hday)
  · -- the days cannot be the other way round, so it is the seconds of one day that differ
    have hdate : s.date = t.date := Date.ext (by omega)
    have hsecond : s.second < t.second := by
      rw [hdate] at h
      omega
    refine .inr ⟨?_, ?_⟩
    · rw [hdate]
      exact Std.ReflCmp.compare_self
    · rw [Nat.compare_eq_lt.mpr hsecond]
      rfl

end Instant

namespace ComparisonOperator

/-- An order of the operands answers exactly one of the strict operators and of equality. -/
theorem existsUnique_test (o : Ordering) :
    ∃! op, op ∈ [lower, equal, greater] ∧ test op o = true := by
  cases o with
  | lt => exact ⟨lower, by decide, fun op h => by cases op <;> simp_all [test]⟩
  | eq => exact ⟨equal, by decide, fun op h => by cases op <;> simp_all [test]⟩
  | gt => exact ⟨greater, by decide, fun op h => by cases op <;> simp_all [test]⟩

theorem test_lowerOrEqual (o : Ordering) : lowerOrEqual.test o = o.isLE := by
  cases o <;> rfl

end ComparisonOperator

/-! ## Points in time -/

/-- A calendar date or an instant. -/
inductive TimePoint where
  | date (d : Date)
  | instant (t : Instant)

namespace TimePoint

def value : TimePoint → Value
  | .date d => .date d
  | .instant t => .instant t

/-- The type of the point, with dates of the given type. -/
def type (dateType : TypeDecl) : TimePoint → TypeDecl
  | .date _ => dateType
  | .instant _ => Standard.timestamp

/-- The instant at which the point starts in a zone. -/
def start? (zone : Zone) : TimePoint → Option Instant
  | .date d => zone.startOfDay d
  | .instant t => some t

end TimePoint

/-- What the rule of the left point's type answers. -/
def Environment.comparePoints (env : Environment) (ctx : Context) (dateType : TypeDecl)
    (op : ComparisonOperator) (x y : TimePoint) : Outcome Truth :=
  env.compare ctx (x.type dateType) (y.type dateType) x.value y.value op

/-- A linear order on the points with the property: of any two, exactly one is the lower or both are
equal; the other operators answer oppositely; and the order passes on. -/
structure IsTemporalOrder (ask : ComparisonOperator → TimePoint → TimePoint → Outcome Truth)
    (P : TimePoint → Prop) : Prop where
  exactlyOne {x y : TimePoint} (hx : P x) (hy : P y) :
    ∃! op, op ∈ [ComparisonOperator.lower, .equal, .greater] ∧ ask op x y = .ok (some true)
  opposite {x y : TimePoint} (hx : P x) (hy : P y) (op : ComparisonOperator) :
    ∃ b, ask op x y = .ok (some b) ∧ ask op.inverse x y = .ok (some !b)
  transitive {x y z : TimePoint} (hx : P x) (hy : P y) (hz : P z)
    (hxy : ask .lowerOrEqual x y = .ok (some true))
    (hyz : ask .lowerOrEqual y z = .ok (some true)) :
    ask .lowerOrEqual x z = .ok (some true)

theorem IsTemporalOrder.of_places
    {ask : ComparisonOperator → TimePoint → TimePoint → Outcome Truth} {P : TimePoint → Prop}
    (place : TimePoint → Option Instant) (hplace : ∀ x, P x → ∃ s, place x = some s)
    (hask : ∀ x y s t, place x = some s → place y = some t → ∀ op : ComparisonOperator,
      ask op x y = .ok (some (op.test (s.compare t)))) : IsTemporalOrder ask P where
  exactlyOne {x y} hx hy := by
    obtain ⟨s, hs⟩ := hplace x hx
    obtain ⟨t, ht⟩ := hplace y hy
    simp only [hask x y s t hs ht, Except.ok.injEq, Option.some.injEq]
    exact ComparisonOperator.existsUnique_test (s.compare t)
  opposite {x y} hx hy op := by
    obtain ⟨s, hs⟩ := hplace x hx
    obtain ⟨t, ht⟩ := hplace y hy
    refine ⟨op.test (s.compare t), hask x y s t hs ht op, ?_⟩
    rw [hask x y s t hs ht, op.test_inverse]
  transitive {x y z} hx hy hz hxy hyz := by
    obtain ⟨s, hs⟩ := hplace x hx
    obtain ⟨t, ht⟩ := hplace y hy
    obtain ⟨u, hu⟩ := hplace z hz
    rw [hask x y s t hs ht, ComparisonOperator.test_lowerOrEqual] at hxy
    rw [hask y z t u ht hu, ComparisonOperator.test_lowerOrEqual] at hyz
    rw [hask x z s u hs hu, ComparisonOperator.test_lowerOrEqual]
    have hst : (s.compare t).isLE := by
      injection hxy with h
      injection h
    have htu : (t.compare u).isLE := by
      injection hyz with h
      injection h
    have hsu : (s.compare u).isLE := Std.TransCmp.isLE_trans hst htu
    rw [hsu]

/-! ## Zones -/

namespace Zone

/-- UTC, in which every date has a start. -/
def utc : Zone := ⟨fun d => some (.startOfDay d)⟩

/-- Whether later days start later, as far as they have a start. -/
def IsIncreasing (z : Zone) : Prop :=
  ∀ d e s t, z.startOfDay d = some s → z.startOfDay e = some t →
    d.compare e = .lt → s.compare t = .lt

theorem IsIncreasing.compare_eq {z : Zone} (h : z.IsIncreasing) {d e : Date} {s t : Instant}
    (hs : z.startOfDay d = some s) (ht : z.startOfDay e = some t) :
    s.compare t = d.compare e := by
  cases hde : d.compare e with
  | lt => exact h d e s t hs ht hde
  | eq =>
    have hsame : s = t := by
      rw [Date.eq_of_compare hde, ht] at hs
      exact (Option.some.inj hs).symm
    rw [hsame]
    exact Std.ReflCmp.compare_self
  | gt =>
    -- the zone only speaks of an earlier day on the left
    have hed : e.compare d = .lt := by
      rw [← d.compare_swap e, hde]
      rfl
    rw [← t.compare_swap s, h e d t s ht hs hed]
    rfl

theorem utc_isIncreasing : utc.IsIncreasing := by
  intro d e s t hs ht hde
  cases hs
  cases ht
  show (d.compare e).then _ = .lt
  rw [hde]
  rfl

/-- Offsets that stay within less than a day of each other keep days apart. -/
theorem isIncreasing_of_offsets {z : Zone} (least greatest : Int)
    (hrange : greatest < least + secondsPerDay)
    (hstart : ∀ d s, z.startOfDay d = some s →
      d.day * secondsPerDay - greatest ≤ s.totalSeconds ∧
        s.totalSeconds ≤ d.day * secondsPerDay - least) : z.IsIncreasing := by
  intro d e s t hs ht hde
  -- the earlier day starts at the latest where the later one starts at the earliest
  have hday : d.day < e.day := Date.compare_eq_lt.mp hde
  have hbefore := (hstart d s hs).2
  have hafter := (hstart e t ht).1
  apply Instant.compare_eq_lt_of_totalSeconds_lt
  unfold secondsPerDay at *
  omega

theorem fixed_isIncreasing (offset : Int) : (fixed offset).IsIncreasing := by
  refine isIncreasing_of_offsets offset offset ?_ fun d s hs => ?_
  · unfold secondsPerDay
    omega
  · rw [Instant.totalSeconds_of_offsetBy hs, Instant.totalSeconds_startOfDay]
    omega

/-- Midnight is read on one of the two clocks. -/
theorem Seasons.offsetAtMidnight_eq {s : Seasons} {d : Date} {offset : Int}
    (h : s.offsetAtMidnight d = some offset) : offset = s.standard ∨ offset = s.daylight := by
  unfold offsetAtMidnight at h
  simp only at h
  split at h
  · exact .inl (Option.some.inj h).symm
  · split at h
    · exact .inr (Option.some.inj h).symm
    · cases h

theorem seasonal_isIncreasing {s : Seasons}
    (h : (s.standard - s.daylight).natAbs < secondsPerDay) : (seasonal s).IsIncreasing := by
  refine isIncreasing_of_offsets (min s.standard s.daylight) (max s.standard s.daylight) ?_
    fun d t ht => ?_
  · omega
  · obtain ⟨offset, hoffset, hmoved⟩ := Option.bind_eq_some_iff.mp ht
    rw [Instant.totalSeconds_of_offsetBy hmoved, Instant.totalSeconds_startOfDay]
    rcases Seasons.offsetAtMidnight_eq hoffset with rfl | rfl <;> omega

end Zone

/-! ## Comparison -/

/-- How dates are placed among the instants. -/
inductive DateReading where
  /-- At the start of the day in UTC. -/
  | universal
  /-- At the start of the day in the system's zone. -/
  | system

namespace DateReading

def type : DateReading → TypeDecl
  | universal => Standard.date
  | system => Standard.localDate

def zone (env : Environment) : DateReading → Zone
  | universal => .utc
  | system => env.zone

variable (env : Environment) (ctx : Context) (reading : DateReading) (op : ComparisonOperator)

theorem compare_dates (d e : Date) :
    env.comparePoints ctx reading.type op (.date d) (.date e) =
      .ok (some (op.test (d.compare e))) := by
  cases reading <;> rfl

theorem compare_date_instant {d : Date} {s : Instant}
    (hs : (reading.zone env).startOfDay d = some s) (t : Instant) :
    env.comparePoints ctx reading.type op (.date d) (.instant t) =
      .ok (some (op.test (s.compare t))) := by
  cases reading with
  | universal =>
    cases hs
    rfl
  | system =>
    have hstart : env.startOfDay d = .ok s := by
      unfold Environment.startOfDay
      rw [show env.zone.startOfDay d = some s from hs]
    show (do return some (op.test ((← env.startOfDay d).compare t))) = _
    rw [hstart]
    rfl

/-- The date's own rule answers, with the operands and the operator turned round. -/
theorem compare_instant_date (t : Instant) (d : Date) :
    env.comparePoints ctx reading.type op (.instant t) (.date d) =
      env.comparePoints ctx reading.type op.converse (.date d) (.instant t) := by
  cases reading <;> rfl

/-- **Places.** Any two points that start in the zone are compared by their starts. -/
theorem compare_points {x y : TimePoint} {s t : Instant}
    (hzone : (reading.zone env).IsIncreasing) (hs : x.start? (reading.zone env) = some s)
    (ht : y.start? (reading.zone env) = some t) :
    env.comparePoints ctx reading.type op x y = .ok (some (op.test (s.compare t))) := by
  cases x with
  | date d =>
    cases y with
    | date e => rw [compare_dates, hzone.compare_eq hs ht]
    | instant u =>
      cases ht
      exact compare_date_instant env ctx reading op hs t
  | instant u =>
    cases hs
    cases y with
    | date e =>
      rw [compare_instant_date, compare_date_instant env ctx reading op.converse ht,
        op.test_converse_of_swap (s.compare_swap t)]
    | instant v =>
      cases ht
      rfl

end DateReading

/-- **The temporal order.** Dates and instants, in any mixture, stand in one linear order; and so do
local dates and instants in a zone in which later days start later, as far as the dates have a
start there. -/
theorem points_in_order (env : Environment) (ctx : Context) :
    IsTemporalOrder (env.comparePoints ctx Standard.date) (fun _ => True) ∧
      (env.zone.IsIncreasing →
        IsTemporalOrder (env.comparePoints ctx Standard.localDate)
          fun x => ∃ t, x.start? env.zone = some t) := by
  constructor
  · refine .of_places (TimePoint.start? .utc) (fun x _ => ?_) fun x y s t hs ht op => ?_
    · cases x <;> exact ⟨_, rfl⟩
    · exact DateReading.universal.compare_points env ctx op Zone.utc_isIncreasing hs ht
  · intro hzone
    refine .of_places (TimePoint.start? env.zone) (fun x hx => hx) fun x y s t hs ht op => ?_
    exact DateReading.system.compare_points env ctx op hzone hs ht

/-- A system five hours west of UTC, and four in summer. In March clocks go from half past eleven in
the evening to half past midnight, so one day of the year has no start. -/
def summery : Environment where
  zone := .seasonal ⟨-18000, -14400, ⟨3, 2, 6, 84600⟩, ⟨11, 1, 0, 3600⟩⟩
  host := .bare

/-- 30 June 2024. -/
def midsummer : Date := ⟨739066, by decide, by decide⟩

/-- Four hours into the next day in UTC, less a second; on the clocks of the system still in June. -/
def lastOfJune : Instant :=
  { Instant.startOfDay ⟨739067, by decide, by decide⟩ with second := 14399, second_lt := by decide }

/-- The last second of June lies between the starts of 30 June and 1 July, so they are in order. -/
theorem midsummer_in_order :
    summery.zone.IsIncreasing ∧
      (∃ t, TimePoint.start? summery.zone (.date midsummer) = some t) ∧
      (∃ t, TimePoint.start? summery.zone (.date lastOfJune.date) = some t) ∧
      summery.comparePoints .empty Standard.localDate .lowerOrEqual (.date midsummer)
        (.instant lastOfJune) = .ok (some true) ∧
      summery.comparePoints .empty Standard.localDate .lowerOrEqual (.instant lastOfJune)
        (.date lastOfJune.date) = .ok (some true) ∧
      summery.comparePoints .empty Standard.localDate .lowerOrEqual (.date midsummer)
        (.date lastOfJune.date) = .ok (some true) := by
  have hzone : summery.zone.IsIncreasing := Zone.seasonal_isIncreasing (by decide)
  have hfirst : ∃ t, TimePoint.start? summery.zone (.date midsummer) = some t := ⟨_, rfl⟩
  have hlast : ∃ t, TimePoint.start? summery.zone (.date lastOfJune.date) = some t := ⟨_, rfl⟩
  have hbefore : summery.comparePoints .empty Standard.localDate .lowerOrEqual
      (.date midsummer) (.instant lastOfJune) = .ok (some true) := rfl
  have hafter : summery.comparePoints .empty Standard.localDate .lowerOrEqual
      (.instant lastOfJune) (.date lastOfJune.date) = .ok (some true) := rfl
  exact ⟨hzone, hfirst, hlast, hbefore, hafter,
    ((points_in_order summery .empty).2 hzone).transitive hfirst ⟨_, rfl⟩ hlast hbefore hafter⟩

end TypedExpr
