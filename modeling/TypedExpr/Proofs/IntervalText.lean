import TypedExpr.Capability.Arithmetic
import TypedExpr.Capability.Conversion
import TypedExpr.Proofs.Outcome
import TypedExpr.Proofs.Scanning
import TypedExpr.Proofs.TemporalOrder

/-!
# Intervals read back

An interval is read back from its text. Parts that are zero are left out, and M stands for months as
well as for minutes; but the parts stand in order, and those of the clock behind a T, so the unit
that comes next tells which parts there are. Wherever the text of an interval is put, different
intervals stay different: as a string, joined with a string, and in the message of an overflow.
-/

namespace TypedExpr

open Text

namespace Interval

/-! ## Reading -/

/-- Whether a character belongs to an amount and not to a unit. -/
def isAmount (c : Char) : Bool := c == '-' || c.isDigit

/-- The first character that is not of an amount. -/
def nextUnit? (cs : List Char) : Option Char := (cs.dropWhile isAmount).head?

/-- Reads the part of a unit; a part that does not come next is zero. -/
def readPart? (unit : Char) (cs : List Char) : Option (Int32 × List Char) :=
  if nextUnit? cs = some unit then do
    let amount ← int32? (← readInt? (cs.takeWhile isAmount))
    return (amount, (cs.dropWhile isAmount).tail)
  else some (0, cs)

/-- Reads a part of each unit, in order. -/
def readParts? : List Char → List Char → Option (List Int32 × List Char)
  | [], cs => some ([], cs)
  | unit :: units, cs => do
    let (amount, cs) ← readPart? unit cs
    let (amounts, cs) ← readParts? units cs
    return (amount :: amounts, cs)

/-- Reads the parts of the clock behind a T; without it all of them are zero. -/
def readClock? : List Char → Option (List Int32)
  | [] => some [0, 0, 0]
  | 'T' :: cs => do
    let (amounts, cs) ← readParts? ['H', 'M', 'S'] cs
    if cs = [] then some amounts else none
  | _ => none

/-- Reads the parts of the calendar and then those of the clock. -/
def read? : List Char → Option Interval
  | 'P' :: cs => do
    let (calendar, cs) ← readParts? ['Y', 'M', 'D'] cs
    match calendar, ← readClock? cs with
    | [years, months, days], [hours, minutes, seconds] =>
      some ⟨years, months, days, hours, minutes, seconds⟩
    | _, _ => none
  | _ => none

def ofText? (s : String) : Option Interval := read? s.toList

/-! ## Parts -/

theorem isAmount_of_mem_signed {i : Int} {c : Char} (h : c ∈ signed i) : isAmount c := by
  rw [isAmount, Bool.or_eq_true]
  cases i with
  | ofNat n => exact .inr (isDigit_of_mem_digits h)
  | negSucc n =>
    rcases List.mem_cons.mp h with rfl | h
    · exact .inl rfl
    · exact .inr (isDigit_of_mem_digits h)

theorem partChars_eq_nil_iff {amount : Int32} {unit : Char} :
    partChars amount unit = [] ↔ amount = 0 := by
  rw [partChars]
  split <;> simp_all

section Parts

variable {unit : Char} (hunit : isAmount unit = false) {amount : Int32} (rest : List Char)
include hunit

theorem takeWhile_partChars (h : amount ≠ 0) :
    (partChars amount unit ++ rest).takeWhile isAmount = signed amount.toInt := by
  rw [partChars, if_neg h, List.append_assoc,
    List.takeWhile_append_of_pos fun _ => isAmount_of_mem_signed, List.singleton_append,
    (stops_cons.mpr hunit).takeWhile, List.append_nil]

theorem dropWhile_partChars (h : amount ≠ 0) :
    (partChars amount unit ++ rest).dropWhile isAmount = unit :: rest := by
  rw [partChars, if_neg h, List.append_assoc,
    List.dropWhile_append_of_pos fun _ => isAmount_of_mem_signed, List.singleton_append,
    (stops_cons.mpr hunit).dropWhile]

theorem nextUnit?_partChars (amount : Int32) :
    nextUnit? (partChars amount unit ++ rest) =
      if amount = 0 then nextUnit? rest else some unit := by
  split
  next h => rw [partChars, if_pos h, List.nil_append]
  next h => rw [nextUnit?, dropWhile_partChars hunit rest h, List.head?_cons]

theorem readPart?_partChars (amount : Int32) (hrest : nextUnit? rest ≠ some unit) :
    readPart? unit (partChars amount unit ++ rest) = some (amount, rest) := by
  by_cases h : amount = 0
  · rw [h, partChars, if_pos rfl, List.nil_append, readPart?, if_neg hrest]
  · have hnext : nextUnit? (partChars amount unit ++ rest) = some unit := by
      rw [nextUnit?_partChars hunit, if_neg h]
    have hamount : int32? amount.toInt = some amount := int32?_eq_some_iff.mpr rfl
    rw [readPart?, if_pos hnext, takeWhile_partChars hunit rest h, dropWhile_partChars hunit rest h,
      readInt?_signed]
    simp only [Option.bind_eq_bind, Option.bind_some, hamount, List.tail_cons]
    rfl

end Parts

/-! ## Parts in order -/

/-- Parts with their units, one after the other. -/
def partsChars : List (Int32 × Char) → List Char
  | [] => []
  | (amount, unit) :: parts => partChars amount unit ++ partsChars parts

theorem partsChars_eq_nil_iff {parts : List (Int32 × Char)} :
    partsChars parts = [] ↔ ∀ p ∈ parts, p.1 = 0 := by
  induction parts with
  | nil => simp [partsChars]
  | cons p parts ih =>
    rw [partsChars, List.append_eq_nil_iff, partChars_eq_nil_iff, ih, List.forall_mem_cons]

section PartsInOrder

variable (parts : List (Int32 × Char)) {rest : List Char}
  (hunits : ∀ unit ∈ parts.map (·.2), isAmount unit = false)
include hunits

theorem nextUnit?_partsChars {unit : Char} (h : nextUnit? (partsChars parts ++ rest) = some unit) :
    unit ∈ parts.map (·.2) ∨ nextUnit? rest = some unit := by
  induction parts with
  | nil => exact .inr h
  | cons p parts ih =>
    rw [List.map_cons, List.forall_mem_cons] at hunits
    rw [partsChars, List.append_assoc, nextUnit?_partChars hunits.1] at h
    -- a part that is zero has no text, and the next unit is that of the parts behind it
    split at h
    next => exact (ih hunits.2 h).imp_left (List.mem_cons_of_mem _)
    next =>
      cases h
      exact .inl List.mem_cons_self

theorem readParts?_partsChars (hnodup : (parts.map (·.2)).Nodup)
    (hrest : ∀ unit ∈ parts.map (·.2), nextUnit? rest ≠ some unit) :
    readParts? (parts.map (·.2)) (partsChars parts ++ rest) = some (parts.map (·.1), rest) := by
  induction parts with
  | nil => rfl
  | cons p parts ih =>
    rw [List.map_cons, List.forall_mem_cons] at hunits hrest
    rw [List.map_cons, List.nodup_cons] at hnodup
    -- the units behind this part are others, so nothing there is taken for it if it is left out
    have hnext : nextUnit? (partsChars parts ++ rest) ≠ some p.2 := fun h =>
      (nextUnit?_partsChars parts hunits.2 h).elim hnodup.1 hrest.1
    rw [List.map_cons, List.map_cons, readParts?, partsChars, List.append_assoc,
      readPart?_partChars hunits.1 _ _ hnext]
    simp only [Option.bind_eq_bind, Option.bind_some, ih hunits.2 hnodup.2 hrest.2]
    rfl

end PartsInOrder

/-! ## The text -/

variable (i : Interval)

def calendarParts : List (Int32 × Char) := [(i.years, 'Y'), (i.months, 'M'), (i.days, 'D')]

def clockParts : List (Int32 × Char) := [(i.hours, 'H'), (i.minutes, 'M'), (i.seconds, 'S')]

theorem clockChars_eq :
    i.clockChars = if partsChars i.clockParts = [] then [] else 'T' :: partsChars i.clockParts := by
  have hparts : partChars i.hours 'H' ++ partChars i.minutes 'M' ++ partChars i.seconds 'S' =
      partsChars i.clockParts := by
    simp [partsChars, clockParts]
  rw [clockChars, hparts]
  cases partsChars i.clockParts <;> rfl

theorem chars_eq (h : i ≠ zero) :
    i.chars = 'P' :: (partsChars i.calendarParts ++ i.clockChars) := by
  rw [chars, if_neg h]
  simp [partsChars, calendarParts]

theorem nextUnit?_clockChars {unit : Char} (h : nextUnit? i.clockChars = some unit) :
    unit = 'T' := by
  rw [clockChars_eq] at h
  split at h
  · cases h
  · exact (Option.some.inj h).symm

theorem readClock?_clockChars :
    readClock? i.clockChars = some [i.hours, i.minutes, i.seconds] := by
  rw [clockChars_eq]
  split
  next h =>
    -- no T, as no part of the clock differs from zero
    have hzero := partsChars_eq_nil_iff.mp h
    simp only [clockParts, List.forall_mem_cons] at hzero
    rw [readClock?, hzero.1, hzero.2.1, hzero.2.2.1]
  next =>
    have hunits : ∀ unit ∈ ['H', 'M', 'S'], isAmount unit = false := by simp [isAmount]
    have hnodup : ['H', 'M', 'S'].Nodup := by decide
    have hend : ∀ unit ∈ ['H', 'M', 'S'], nextUnit? [] ≠ some unit := fun _ _ => nofun
    have hread : readParts? ['H', 'M', 'S'] (partsChars i.clockParts ++ []) =
        some ([i.hours, i.minutes, i.seconds], []) :=
      readParts?_partsChars i.clockParts hunits hnodup hend
    rw [List.append_nil] at hread
    rw [readClock?, hread]
    rfl

theorem read?_chars : read? i.chars = some i := by
  by_cases h : i = zero
  · subst h
    decide
  · have hunits : ∀ unit ∈ ['Y', 'M', 'D'], isAmount unit = false := by simp [isAmount]
    have hnodup : ['Y', 'M', 'D'].Nodup := by decide
    -- behind the calendar comes a T or nothing, so an M in front of it means months
    have hclock : ∀ unit ∈ ['Y', 'M', 'D'], nextUnit? i.clockChars ≠ some unit := by
      intro unit hunit hnext
      rw [i.nextUnit?_clockChars hnext] at hunit
      exact absurd hunit (by decide)
    have hread : readParts? ['Y', 'M', 'D'] (partsChars i.calendarParts ++ i.clockChars) =
        some ([i.years, i.months, i.days], i.clockChars) :=
      readParts?_partsChars i.calendarParts hunits hnodup hclock
    rw [chars_eq i h, read?, hread]
    simp only [Option.bind_eq_bind, Option.bind_some, readClock?_clockChars]

theorem chars_inj {i j : Interval} : i.chars = j.chars ↔ i = j := by
  constructor
  · intro h
    have hread : some i = some j := by rw [← i.read?_chars, h, j.read?_chars]
    exact Option.some.inj hread
  · exact congrArg chars

theorem toList_text : i.text.toList = i.chars := String.toList_ofList

theorem ofText?_text : ofText? i.text = some i := by
  rw [ofText?, toList_text, read?_chars]

theorem text_inj {i j : Interval} : i.text = j.text ↔ i = j := by
  rw [← String.toList_inj, toList_text, toList_text, chars_inj]

end Interval

/-! ## Characters -/

/-- A character of a date or an instant. -/
def isPointChar (c : Char) : Bool := c.isDigit || ['-', '+', 'T', ':', '.'].contains c

theorem all_padded (width n : Nat) : (padded width n).all isPointChar := by
  rw [List.all_eq_true]
  intro c hc
  rw [isPointChar, isDigit_of_mem_padded width n hc, Bool.true_or]

theorem Date.all_chars (d : Date) : d.chars.all isPointChar := by
  have hdash : isPointChar '-' = true := rfl
  have hplus : isPointChar '+' = true := rfl
  have hyear : (yearChars d.year).all isPointChar := by
    unfold yearChars
    split
    · exact all_padded ..
    · split <;> simp [all_padded, hdash, hplus]
  simp [Date.chars, hyear, all_padded, hdash]

theorem Instant.all_chars (t : Instant) :
    (t.charsIn ['+', '0', '0', ':', '0', '0']).all isPointChar := by
  have hpoint : isPointChar '.' = true := rfl
  have hcolon : isPointChar ':' = true := rfl
  have hT : isPointChar 'T' = true := rfl
  have hzone : ['+', '0', '0', ':', '0', '0'].all isPointChar = true := rfl
  have hfraction : (fractionChars (t.nanosecond % nanosPerSecond)).all isPointChar := by
    unfold fractionChars
    split
    · rfl
    · split
      · simp [all_padded, hpoint]
      · split <;> simp [all_padded, hpoint]
  have hclock : t.clockChars.all isPointChar := by
    simp [Instant.clockChars, all_padded, hcolon, hfraction]
  rw [Instant.charsIn, List.all_append, List.all_append, List.all_cons, t.date.all_chars, hT,
    hclock, hzone]
  rfl

theorem TimePoint.notMem_text (point : TimePoint) {c : Char} (hc : isPointChar c = false) :
    c ∉ point.value.text.toList := by
  have hall : point.value.text.toList.all isPointChar := by
    cases point with
    | date d =>
      show d.text.toList.all isPointChar
      rw [Date.text, String.toList_ofList]
      exact d.all_chars
    | instant t =>
      show t.text.toList.all isPointChar
      rw [Instant.text, String.toList_ofList]
      exact t.all_chars
  intro hmem
  rw [List.all_eq_true.mp hall c hmem] at hc
  cases hc

namespace Interval

theorem blank_notMem_partChars (amount : Int32) {unit : Char} (h : ' ' ≠ unit) :
    ' ' ∉ partChars amount unit := by
  rw [partChars]
  split
  · exact List.not_mem_nil
  · intro hmem
    rcases List.mem_append.mp hmem with hmem | hmem
    · exact absurd (isAmount_of_mem_signed hmem) (by decide)
    · exact h (List.mem_singleton.mp hmem)

theorem head?_chars (i : Interval) : i.chars.head? = some 'P' := by
  rw [chars]
  split <;> rfl

theorem blank_notMem_chars (i : Interval) : ' ' ∉ i.chars := by
  by_cases h : i = zero
  · subst h
    decide
  · rw [chars_eq i h, clockChars_eq]
    split <;> simp [partsChars, calendarParts, clockParts, blank_notMem_partChars]

end Interval

/-! ## Messages -/

/-- Texts that do not hold a separator are told apart by what stands in front of it. -/
theorem append_cons_inj {sep : Char} {front front' rest rest' : List Char} (h : sep ∉ front)
    (h' : sep ∉ front') (heq : front ++ sep :: rest = front' ++ sep :: rest') :
    front = front' ∧ rest = rest' := by
  induction front generalizing front' with
  | nil =>
    cases front' with
    | nil => exact ⟨rfl, (List.cons.inj heq).2⟩
    | cons c front' =>
      obtain ⟨rfl, -⟩ := List.cons.inj heq
      exact absurd List.mem_cons_self h'
  | cons c front ih =>
    cases front' with
    | nil =>
      obtain ⟨rfl, -⟩ := List.cons.inj heq
      exact absurd List.mem_cons_self h
    | cons c' front' =>
      obtain ⟨rfl, htail⟩ := List.cons.inj heq
      obtain ⟨rfl, rfl⟩ := ih (mt (List.mem_cons_of_mem _) h) (mt (List.mem_cons_of_mem _) h') htail
      exact ⟨rfl, rfl⟩

namespace Value

def interval? : Value → Option Interval
  | .interval i => some i
  | _ => none

/-- An interval or a point in time. -/
inductive IsTemporal : Value → Prop
  | interval (i : Interval) : IsTemporal (.interval i)
  | point (p : TimePoint) : IsTemporal p.value

namespace IsTemporal

variable {v w : Value}

theorem blank_notMem_text (h : v.IsTemporal) : ' ' ∉ v.text.toList := by
  cases h with
  | interval i =>
    rw [text, i.toList_text]
    exact i.blank_notMem_chars
  | point p => exact p.notMem_text rfl

theorem point_text_ne (p : TimePoint) (i : Interval) : p.value.text ≠ i.text := by
  intro h
  apply p.notMem_text (show isPointChar 'P' = false by decide)
  rw [h, i.toList_text]
  exact List.mem_of_mem_head? i.head?_chars

/-- An interval starts with a P, which occurs in no text of a point in time. -/
theorem interval?_eq (hv : v.IsTemporal) (hw : w.IsTemporal) (h : v.text = w.text) :
    v.interval? = w.interval? := by
  cases hv with
  | interval i =>
    cases hw with
    | interval j =>
      rw [Interval.text_inj.mp h]
    | point q => exact absurd h.symm (point_text_ne q i)
  | point p =>
    cases hw with
    | interval j => exact absurd h (point_text_ne p j)
    | point q => cases p <;> cases q <;> rfl

end IsTemporal

end Value

namespace Operation

/-- The intervals that an operation is about. -/
def intervals : Operation → List Interval
  | negate operand => operand.interval?.toList
  | apply _ left right => left.interval?.toList ++ right.interval?.toList
  | power .. | host _ => []

/-- An operation on an interval, alone or behind another interval or a point in time. -/
inductive IsOnInterval : Operation → Prop
  | negate (i : Interval) : IsOnInterval (negate (.interval i))
  | apply (op : ArithmeticOperator) {left : Value} (hleft : left.IsTemporal) (i : Interval) :
      IsOnInterval (apply op left (.interval i))

theorem toList_text_negate (i : Interval) :
    (negate (.interval i)).text.toList = '-' :: i.chars := by
  rw [text, String.toList_append, Value.text, i.toList_text]
  rfl

theorem toList_text_apply (op : ArithmeticOperator) (left : Value) (i : Interval) :
    (apply op left (.interval i)).text.toList =
      left.text.toList ++ ' ' :: (op.symbol.toList ++ ' ' :: i.chars) := by
  simp [text, Value.text, i.toList_text]

theorem text_negate_ne_apply (i j : Interval) (op : ArithmeticOperator) (left : Value) :
    (negate (.interval i)).text ≠ (apply op left (.interval j)).text := by
  intro h
  rw [← String.toList_inj, toList_text_negate, toList_text_apply] at h
  have hmem : ' ' ∈ '-' :: i.chars := by
    rw [h]
    exact List.mem_append_right _ List.mem_cons_self
  rcases List.mem_cons.mp hmem with hmem | hmem
  · exact absurd hmem (by decide)
  · exact i.blank_notMem_chars hmem

/-- Blanks stand around the operator and nowhere else, so the text of an operation tells its
operands apart. -/
theorem IsOnInterval.intervals_eq {o o' : Operation} (h : o.IsOnInterval) (h' : o'.IsOnInterval)
    (htext : o.text = o'.text) : o.intervals = o'.intervals := by
  cases h with
  | negate i =>
    cases h' with
    | negate j =>
      rw [← String.toList_inj, toList_text_negate, toList_text_negate, List.cons.injEq] at htext
      rw [Interval.chars_inj.mp htext.2]
    | apply op hleft j => exact absurd htext (text_negate_ne_apply i j op _)
  | @apply op left hleft i =>
    cases h' with
    | negate j => exact absurd htext.symm (text_negate_ne_apply j i op left)
    | @apply op' left' hleft' j =>
      -- the first blank ends the left operand, and the second the operator
      have hsymbol (op : ArithmeticOperator) : ' ' ∉ op.symbol.toList := by
        cases op <;> decide
      rw [← String.toList_inj, toList_text_apply, toList_text_apply] at htext
      obtain ⟨hleft_eq, hrest⟩ :=
        append_cons_inj hleft.blank_notMem_text hleft'.blank_notMem_text htext
      obtain ⟨-, hright⟩ := append_cons_inj (hsymbol op) (hsymbol op') hrest
      rw [intervals, intervals, hleft.interval?_eq hleft' (String.toList_inj.mp hleft_eq),
        Interval.chars_inj.mp hright]

end Operation

/-! ## Overflows -/

/-- An outcome that overflows, if it does, in an operation on an interval. -/
abbrev Outcome.OverflowsOnInterval : Outcome Value → Prop :=
  Satisfies (fun e => ∀ o, e = .overflow o → o.IsOnInterval) fun _ => True

namespace ArithmeticRule

open EvalError Outcome

theorem error_overflows {e : EvalError} (h : e.kind ≠ .overflow) :
    OverflowsOnInterval (.error e) := by
  rintro o rfl
  exact absurd rfl h

section

variable (op : ArithmeticOperator) (l r : Value)

theorem plusOrMinus_overflows {left : Value} (hleft : left.IsTemporal) (i : Interval)
    (plus minus : Option Value) :
    OverflowsOnInterval (plusOrMinus l r op left (.interval i) plus minus) := by
  have horOverflow (op : ArithmeticOperator) (result : Option Value) :
      OverflowsOnInterval (orOverflow op left (.interval i) result) := by
    cases result with
    | some v => trivial
    | none =>
      rintro o ⟨⟩
      exact .apply op hleft i
  cases op with
  | plus => exact horOverflow .plus plus
  | minus => exact horOverflow .minus minus
  | _ => exact error_overflows nofun

theorem combine_overflows (a b : Interval) : OverflowsOnInterval (combine a b l r op) :=
  plusOrMinus_overflows op l r (.interval a) b _ _

theorem moveDate_overflows (d : Date) (i : Interval) :
    OverflowsOnInterval (moveDate d i l r op) :=
  plusOrMinus_overflows op l r (.point (.date d)) i _ _

theorem moveInstant_overflows (t : Instant) (i : Interval) :
    OverflowsOnInterval (moveInstant t i l r op) :=
  plusOrMinus_overflows op l r (.point (.instant t)) i _ _

theorem dates_overflows : OverflowsOnInterval (dates l r op) := by
  unfold dates
  split
  next a b => exact combine_overflows op _ _ a b
  next d i => exact moveDate_overflows op _ _ d i
  next i d =>
    split
    · exact moveDate_overflows op _ _ d i
    · exact error_overflows nofun
  next => exact error_overflows nofun

theorem instants_overflows : OverflowsOnInterval (instants l r op) := by
  unfold instants
  split
  next a b => exact combine_overflows op _ _ a b
  next t i => exact moveInstant_overflows op _ _ t i
  next i t =>
    split
    · exact moveInstant_overflows op _ _ t i
    · exact error_overflows nofun
  next => exact error_overflows nofun

theorem localDates_overflows (env : Environment) :
    OverflowsOnInterval (localDates env.startOfDay l r op) := by
  have hmove (l r : Value) (d : Date) (i : Interval) :
      OverflowsOnInterval (do moveInstant (← env.startOfDay d) i l r op) := by
    have hstart : (env.startOfDay d).Satisfies
        (fun e => ∀ o, e = .overflow o → o.IsOnInterval) fun _ => True := by
      unfold Environment.startOfDay
      split
      · trivial
      · exact fun _ => nofun
    exact hstart.bind fun t _ => moveInstant_overflows op l r t i
  unfold localDates
  split
  next a b => exact combine_overflows op _ _ a b
  next d i => exact hmove _ _ d i
  next i d =>
    split
    · exact hmove _ _ d i
    · exact error_overflows nofun
  next => exact error_overflows nofun

theorem intervals_overflows : OverflowsOnInterval (intervals l r op) := by
  unfold intervals
  split
  next a =>
    split
    next =>
      unfold negateInterval
      split
      · trivial
      · rintro o ⟨⟩
        exact .negate a
    next => trivial
    next =>
      split
      next b => exact combine_overflows _ _ _ a b
      next => exact error_overflows nofun
  next => exact error_overflows nofun

end

/-- The rules that take intervals. -/
def takesIntervals : ArithmeticRule → Bool
  | date | localDate | timestamp | interval => true
  | _ => false

theorem calculate_overflows {rule : ArithmeticRule} (h : rule.takesIntervals) (env : Environment)
    (ctx : Context) (target leftType rightType : TypeDecl) (l r : Value) (op : ArithmeticOperator) :
    OverflowsOnInterval (rule.calculate env ctx target leftType rightType l r op) := by
  cases rule with
  | date => exact dates_overflows op l r
  | localDate => exact localDates_overflows op l r env
  | timestamp => exact instants_overflows op l r
  | interval => exact intervals_overflows op l r
  | _ => cases h

end ArithmeticRule

/-- Whether a rule that takes intervals overflows in the operation, on some operands. -/
def Operation.CanOverflow (o : Operation) : Prop :=
  ∃ (rule : ArithmeticRule) (env : Environment) (ctx : Context)
    (target leftType rightType : TypeDecl) (l r : Value) (op : ArithmeticOperator),
    rule.takesIntervals ∧
      rule.calculate env ctx target leftType rightType l r op = .error (.overflow o)

theorem Operation.CanOverflow.isOnInterval {o : Operation} (h : o.CanOverflow) :
    o.IsOnInterval := by
  obtain ⟨rule, env, ctx, target, leftType, rightType, l, r, op, hrule, hoverflow⟩ := h
  have hsatisfies :=
    ArithmeticRule.calculate_overflows hrule env ctx target leftType rightType l r op
  rw [hoverflow] at hsatisfies
  exact hsatisfies o rfl

theorem text_eq_of_message_eq {o o' : Operation}
    (h : (EvalError.overflow o).message = (EvalError.overflow o').message) : o.text = o'.text :=
  (String.append_right_inj _).mp h

section

variable (env : Environment) (ctx : Context)

theorem display_interval_inj {a b : Interval} (t : TypeDecl) :
    Converter.display.convert env ctx (.interval a) t =
      Converter.display.convert env ctx (.interval b) t ↔ a = b := by
  show (Except.ok (Value.string a.text) : Outcome Value) = .ok (.string b.text) ↔ a = b
  rw [Except.ok.injEq, Value.string.injEq, Interval.text_inj]

theorem plus_string_inj {a b : Interval} (target leftType rightType : TypeDecl) (s : String) :
    ArithmeticRule.string.calculate env ctx target leftType rightType (.interval a) (.string s)
        .plus =
      ArithmeticRule.string.calculate env ctx target leftType rightType (.interval b) (.string s)
        .plus ↔ a = b := by
  show (Except.ok (Value.string (a.text ++ s)) : Outcome Value) =
    .ok (.string (b.text ++ s)) ↔ a = b
  rw [Except.ok.injEq, Value.string.injEq, String.append_left_inj, Interval.text_inj]

theorem string_plus_inj {a b : Interval} (target leftType rightType : TypeDecl) (s : String) :
    ArithmeticRule.string.calculate env ctx target leftType rightType (.string s) (.interval a)
        .plus =
      ArithmeticRule.string.calculate env ctx target leftType rightType (.string s) (.interval b)
        .plus ↔ a = b := by
  show (Except.ok (Value.string (s ++ a.text)) : Outcome Value) =
    .ok (.string (s ++ b.text)) ↔ a = b
  rw [Except.ok.injEq, Value.string.injEq, String.append_right_inj, Interval.text_inj]

/-- **The text of an interval determines it.** Every interval is read back from its text, so
different intervals have different texts. They stay different where they are converted to strings,
where they are joined with a string on either side, and in messages: two overflows with the same
message are about the same intervals. -/
theorem intervals_told_apart (a b : Interval) :
    Interval.ofText? a.text = some a ∧
      (a.text = b.text ↔ a = b) ∧
      (∀ t, Converter.display.convert env ctx (.interval a) t =
        Converter.display.convert env ctx (.interval b) t ↔ a = b) ∧
      (∀ target leftType rightType s,
        (ArithmeticRule.string.calculate env ctx target leftType rightType
            (.interval a) (.string s) .plus =
          ArithmeticRule.string.calculate env ctx target leftType rightType
            (.interval b) (.string s) .plus ↔ a = b) ∧
        (ArithmeticRule.string.calculate env ctx target leftType rightType
            (.string s) (.interval a) .plus =
          ArithmeticRule.string.calculate env ctx target leftType rightType
            (.string s) (.interval b) .plus ↔ a = b)) ∧
      ∀ o o' : Operation, o.CanOverflow → o'.CanOverflow →
        (EvalError.overflow o).message = (EvalError.overflow o').message →
        o.intervals = o'.intervals := by
  refine ⟨a.ofText?_text, Interval.text_inj, display_interval_inj env ctx, ?_, ?_⟩
  · intro target leftType rightType s
    exact ⟨plus_string_inj env ctx target leftType rightType s,
      string_plus_inj env ctx target leftType rightType s⟩
  · intro o o' ho ho' hmessage
    exact ho.isOnInterval.intervals_eq ho'.isOnInterval (text_eq_of_message_eq hmessage)

end

/-- The greatest number of months. -/
def greatestMonths : Interval := .ofMonths Int32.maxValue

/-- The greatest number of minutes, whose text has the same amount and the same unit. -/
def greatestMinutes : Interval := { Interval.zero with minutes := Int32.maxValue }

/-- Sums of months and of minutes that overflow have different messages, since they are about
different intervals. -/
theorem months_and_minutes_told_apart :
    Operation.CanOverflow (.apply .plus (.interval greatestMonths) (.interval greatestMonths)) ∧
      Operation.CanOverflow
        (.apply .plus (.interval greatestMinutes) (.interval greatestMinutes)) ∧
      (EvalError.overflow
        (.apply .plus (.interval greatestMonths) (.interval greatestMonths))).message ≠
        (EvalError.overflow
          (.apply .plus (.interval greatestMinutes) (.interval greatestMinutes))).message := by
  have hmonths : Operation.CanOverflow
      (.apply .plus (.interval greatestMonths) (.interval greatestMonths)) :=
    ⟨.interval, .utc, .empty, Standard.interval, Standard.interval, Standard.interval,
      .interval greatestMonths, .interval greatestMonths, .plus, rfl, rfl⟩
  have hminutes : Operation.CanOverflow
      (.apply .plus (.interval greatestMinutes) (.interval greatestMinutes)) :=
    ⟨.interval, .utc, .empty, Standard.interval, Standard.interval, Standard.interval,
      .interval greatestMinutes, .interval greatestMinutes, .plus, rfl, rfl⟩
  refine ⟨hmonths, hminutes, fun hmessage => ?_⟩
  obtain ⟨-, -, -, -, hoverflow⟩ :=
    intervals_told_apart .utc .empty greatestMonths greatestMinutes
  have hintervals : [greatestMonths, greatestMonths] = [greatestMinutes, greatestMinutes] :=
    hoverflow _ _ hmonths hminutes hmessage
  exact absurd hintervals (by decide)

end TypedExpr
