/-!
# Machine integers

Integers of 64 and 32 bits never wrap here: a result outside the range is no result. The exact
value lives in `Int`, and `int64?`, `int32?` and `uint32?` lead back.
-/

-- powers are those of the core library in every module, whatever else it imports, so that a bound
-- such as 2 ^ 63 is one term wherever it is written
attribute [instance (high + 1), default_instance (high + 1)] instPowNat

namespace TypedExpr

/-- The signed 64-bit integer of this value, if there is one. -/
def int64? (i : Int) : Option Int64 :=
  if -2 ^ 63 ≤ i ∧ i < 2 ^ 63 then some (Int64.ofInt i) else none

/-- The signed 32-bit integer of this value, if there is one. -/
def int32? (i : Int) : Option Int32 :=
  if -2 ^ 31 ≤ i ∧ i < 2 ^ 31 then some (Int32.ofInt i) else none

/-- The unsigned 32-bit integer of this value, if there is one. -/
def uint32? (i : Int) : Option UInt32 :=
  if 0 ≤ i ∧ i < 2 ^ 32 then some (UInt32.ofNat i.toNat) else none

theorem int64?_eq_some_iff {i : Int} {w : Int64} : int64? i = some w ↔ w.toInt = i := by
  unfold int64?
  constructor
  · intro h
    split at h
    · next hi =>
      cases h
      exact Int64.toInt_ofInt_of_le hi.1 hi.2
    · cases h
  · rintro rfl
    rw [if_pos ⟨w.le_toInt, w.toInt_lt⟩, Int64.ofInt_toInt]

theorem int64?_eq_none_iff {i : Int} : int64? i = none ↔ i < -2 ^ 63 ∨ 2 ^ 63 ≤ i := by
  unfold int64?
  split <;> simp <;> omega

theorem int32?_eq_some_iff {i : Int} {w : Int32} : int32? i = some w ↔ w.toInt = i := by
  unfold int32?
  constructor
  · intro h
    split at h
    · next hi =>
      cases h
      exact Int32.toInt_ofInt_of_le hi.1 hi.2
    · cases h
  · rintro rfl
    rw [if_pos ⟨w.le_toInt, w.toInt_lt⟩, Int32.ofInt_toInt]

theorem uint32?_of_lt {i : Int} (hnonneg : 0 ≤ i) (hlt : i < 2 ^ 32) :
    ∃ w : UInt32, uint32? i = some w ∧ (w.toNat : Int) = i := by
  refine ⟨UInt32.ofNat i.toNat, if_pos ⟨hnonneg, hlt⟩, ?_⟩
  rw [UInt32.toNat_ofNat_of_lt' (by simp only [UInt32.size]; omega)]
  omega

theorem uint32?_of_le {i : Int} (h : 2 ^ 32 ≤ i) : uint32? i = none :=
  if_neg fun hlt => by omega

end TypedExpr
