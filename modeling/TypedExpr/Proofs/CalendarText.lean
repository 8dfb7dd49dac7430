import TypedExpr.Calendar.Text
import TypedExpr.Proofs.Scanning
import TypedExpr.Proofs.SecondCount

/-!
# Dates and instants read back

Every date is read back from its text, and every instant from its text for exchange unless a leap
second of it stands elsewhere than at the end of a minute: second 60 is the only one that the reader
takes for a leap second.
-/

namespace TypedExpr

open Text

/-! ## Parts -/

theorem Text.Stops.take {p : Char → Bool} {cs : List Char} (h : Stops p cs) (n : Nat) :
    Stops p (cs.take n) := by
  cases n with
  | zero => exact stops_nil
  | succ n =>
    cases cs with
    | nil => exact h
    | cons c cs => exact stops_cons.mpr (stops_cons.mp h)

section Parts

variable {ds rest : List Char} (hds : ∀ c ∈ ds, c.isDigit) (hne : ds ≠ [])
  (hrest : Stops Char.isDigit rest)
include hds hne hrest

theorem readUpTo?_append {most : Nat} (hmost : ds.length ≤ most) :
    readUpTo? most (ds ++ rest) = some (natOfDigits ds, rest) := by
  have htake : ((ds ++ rest).take most).takeWhile (·.isDigit) = ds := by
    rw [List.take_append, List.take_of_length_le hmost, List.takeWhile_append_of_pos hds,
      (hrest.take _).takeWhile, List.append_nil]
  rw [readUpTo?, htake]
  simp only [hne, if_false, List.drop_left]

end Parts

section Padded

variable {n : Nat} {rest : List Char} (hrest : Stops Char.isDigit rest)
include hrest

theorem readUpTo?_padded {width : Nat} (hwidth : 0 < width) (hn : n < 10 ^ width) {most : Nat}
    (hmost : width ≤ most) : readUpTo? most (padded width n ++ rest) = some (n, rest) := by
  have hlength := length_padded hwidth hn
  rw [readUpTo?_append (fun _ hc => isDigit_of_mem_padded _ _ hc) (padded_ne_nil _ _) hrest
    (by omega), natOfDigits_padded]

theorem readPair?_padded (hn : n < 100) : readPair? (padded 2 n ++ rest) = some (n, rest) := by
  rw [readPair?, skipBlank_append (fun _ hc => isDigit_of_mem_padded _ _ hc) (padded_ne_nil _ _)]
  exact readUpTo?_padded hrest (by decide) hn (Nat.le_refl 2)

end Padded

theorem readMark?_cons {mark : Char} (hmark : isBlank mark = false) (rest : List Char) :
    readMark? mark (mark :: rest) = some rest := by
  rw [readMark?, skipBlank_eq (stops_cons.mpr hmark)]
  exact if_pos rfl

/-! ## Dates -/

/-- A year of four digits has no sign, and any other year has one in front of its digits. -/
theorem readYear?_yearChars (year : Int) {rest : List Char} (hrest : Stops Char.isDigit rest) :
    readYear? (yearChars year ++ rest) = some (year, rest) := by
  have hdigit (n : Nat) : ∀ c ∈ padded 4 n, c.isDigit := fun _ hc => isDigit_of_mem_padded _ _ hc
  unfold yearChars
  split
  next h =>
    have hread : readUpTo? 4 (padded 4 year.toNat ++ rest) = some (year.toNat, rest) :=
      readUpTo?_padded hrest (by decide) (by omega) (Nat.le_refl 4)
    rw [readYear?, skipBlank_append (hdigit _) (padded_ne_nil _ _)]
    split
    next heq => exact absurd heq (append_ne_cons (hdigit _) (padded_ne_nil _ _) (by decide) _)
    next heq => exact absurd heq (append_ne_cons (hdigit _) (padded_ne_nil _ _) (by decide) _)
    next =>
      rw [hread, Option.map_some]
      show some ((year.toNat : Int), rest) = _
      rw [show (year.toNat : Int) = year by omega]
  next h =>
    have hread : readUpTo? (padded 4 year.natAbs ++ rest).length (padded 4 year.natAbs ++ rest) =
        some (year.natAbs, rest) := by
      rw [readUpTo?_append (hdigit _) (padded_ne_nil _ _) hrest, natOfDigits_padded]
      rw [List.length_append]
      exact Nat.le_add_right _ _
    rw [List.cons_append, readYear?]
    by_cases hneg : year < 0
    · rw [if_pos hneg, skipBlank_eq (stops_cons.mpr (by decide))]
      simp only [hread, Option.map_some]
      rw [show -(year.natAbs : Int) = year by omega]
    · rw [if_neg hneg, skipBlank_eq (stops_cons.mpr (by decide))]
      simp only [hread, Option.map_some]
      rw [show (year.natAbs : Int) = year by omega]

theorem Date.readDate?_chars (d : Date) {rest : List Char} (hrest : Stops Char.isDigit rest) :
    readDate? (d.chars ++ rest) = some (d, rest) := by
  have hmonth : d.month < 100 := Nat.lt_of_le_of_lt d.month_le (by decide)
  have hday : d.dayOfMonth < 100 := Nat.lt_of_le_of_lt d.dayOfMonth_le (by decide)
  have hdash (cs : List Char) : Stops Char.isDigit ('-' :: cs) := stops_cons.mpr (by decide)
  simp only [Date.chars, List.append_assoc, List.cons_append]
  rw [readDate?, readYear?_yearChars d.year (hdash _)]
  simp only [Option.bind_eq_bind, Option.bind_some,
    readMark?_cons (show isBlank '-' = false by decide), readPair?_padded (hdash _) hmonth,
    readPair?_padded hrest hday, d.ofYmd?_self]
  rfl

/-- **Reading back.** A date is read back from its text. -/
theorem Date.ofText?_text (d : Date) : Date.ofText? d.text = some d := by
  have hread := d.readDate?_chars stops_nil
  rw [List.append_nil] at hread
  rw [Date.ofText?, Date.text, String.toList_ofList, hread]
  rfl

/-! ## Instants -/

/-- A point and digits are read as nanoseconds, whatever their number. -/
theorem readFraction?_point {width n : Nat} (hwidth : 0 < width) (hmost : width ≤ 9)
    (hn : n < 10 ^ width) {rest : List Char} (hrest : Stops Char.isDigit rest) :
    readFraction? ('.' :: padded width n ++ rest) = some (n * 10 ^ (9 - width), rest) := by
  have hlength := length_padded hwidth hn
  rw [List.cons_append, readFraction?, readUpTo?_padded hrest hwidth hn hmost]
  simp only [Option.bind_eq_bind, Option.bind_some, List.length_append, hlength,
    Nat.add_sub_cancel, hrest.dropWhile]
  rfl

/-- The fraction has as many digits as it needs of 3, 6 and 9. -/
theorem readFraction?_fractionChars {nanos : Nat} (hnanos : nanos < nanosPerSecond)
    {rest : List Char} (hrest : Stops Char.isDigit rest) (hpoint : Stops (· == '.') rest) :
    readFraction? (fractionChars nanos ++ rest) = some (nanos, rest) := by
  unfold nanosPerSecond at hnanos
  unfold fractionChars
  split
  next h =>
    rw [h, List.nil_append]
    unfold readFraction?
    split
    · cases stops_cons.mp hpoint
    · rfl
  next =>
    split
    next h =>
      have hlt : nanos / 1000000 < 10 ^ 3 := by omega
      rw [readFraction?_point (by decide) (by decide) hlt hrest,
        show nanos / 1000000 * 10 ^ (9 - 3) = nanos by omega]
    next =>
      split
      next h =>
        have hlt : nanos / 1000 < 10 ^ 6 := by omega
        rw [readFraction?_point (by decide) (by decide) hlt hrest,
          show nanos / 1000 * 10 ^ (9 - 6) = nanos by omega]
      next =>
        rw [readFraction?_point (by decide) (by decide) hnanos hrest,
          show nanos * 10 ^ (9 - 9) = nanos by omega]

theorem stops_fractionChars (nanos : Nat) {rest : List Char} (hrest : Stops Char.isDigit rest) :
    Stops Char.isDigit (fractionChars nanos ++ rest) := by
  unfold fractionChars
  split
  · exact hrest
  · split
    · exact stops_cons.mpr (by decide)
    · split <;> exact stops_cons.mpr (by decide)

namespace Instant

/-- A leap second, if the instant is one, ends its minute. -/
def EndsMinute (t : Instant) : Prop := t.isLeapSecond → t.second % 60 = 59

/-- The second by which the clock of a leap second is ahead of the second it is counted in. -/
def leap (t : Instant) : Nat := if t.isLeapSecond then 1 else 0

theorem second_add_leap_le (t : Instant) : t.second % 60 + t.leap ≤ 60 := by
  unfold leap
  split <;> omega

theorem nanosecond_eq (t : Instant) :
    t.leap * nanosPerSecond + t.nanosecond % nanosPerSecond = t.nanosecond := by
  have hlt := t.nanosecond_lt
  unfold leap isLeapSecond nanosPerSecond at *
  simp only [decide_eq_true_eq]
  split <;> omega

/-- Second 60 is written for a leap second that ends its minute, and for no other second. -/
theorem EndsMinute.leap_eq {t : Instant} (h : t.EndsMinute) :
    (if t.second % 60 + t.leap = 60 then 1 else 0) = t.leap := by
  unfold leap
  split
  next hleap => rw [h hleap, if_pos rfl]
  next => rw [if_neg (by omega)]

/-- **Reading back.** An instant is read back from its text for exchange. -/
theorem ofText?_zuluText {t : Instant} (h : t.EndsMinute) : ofText? t.zuluText = some t := by
  have hsecond := t.second_lt
  have hnanosecond := t.nanosecond_lt
  have hle := t.second_add_leap_le
  have hnanos := t.nanosecond_eq
  unfold secondsPerDay at hsecond
  have hcolon (cs : List Char) : Stops Char.isDigit (':' :: cs) := stops_cons.mpr (by decide)
  have hzulu : Stops Char.isDigit ['Z'] := stops_cons.mpr (by decide)
  have hfraction : t.nanosecond % nanosPerSecond < nanosPerSecond := Nat.mod_lt _ (by decide)
  have hhour : t.second / 3600 < 100 := by omega
  have hminute : t.second / 60 % 60 < 100 := by omega
  have hwritten : t.second % 60 + t.leap < 100 := by omega
  have hoffset : readOffset? (skipBlank ['Z']) = some (0, []) := by decide
  have hclock : t.clockChars =
      padded 2 (t.second / 3600) ++ ':' :: padded 2 (t.second / 60 % 60) ++
        ':' :: padded 2 (t.second % 60 + t.leap) ++
          fractionChars (t.nanosecond % nanosPerSecond) := rfl
  rw [ofText?, zuluText, String.toList_ofList, charsIn, hclock]
  simp only [List.append_assoc, List.cons_append]
  rw [t.date.readDate?_chars (stops_cons.mpr (by decide))]
  -- part by part: hour, minute, second, fraction and zone
  simp only [Option.bind_eq_bind, Option.bind_some, true_or, if_true,
    readPair?_padded (hcolon _) hhour, readPair?_padded (hcolon _) hminute,
    readPair?_padded (stops_fractionChars _ hzulu) hwritten,
    readMark?_cons (show isBlank ':' = false by decide),
    readFraction?_fractionChars hfraction hzulu (stops_cons.mpr (by decide)), hoffset, h.leap_eq]
  rw [if_pos ⟨by omega, by omega, hle, rfl⟩, dif_pos (by omega)]
  refine ofSeconds?_eq_some_iff.mpr ⟨?_, hnanos.symm⟩
  unfold totalSeconds secondsPerDay
  omega

end Instant

end TypedExpr
