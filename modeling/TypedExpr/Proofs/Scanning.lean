import TypedExpr.Text.Basic

/-!
# Scanners

A scanner takes what stands at the front as far as it is of one sort. Behind text that is of the
sort it stops where the next character is not. Padded digits are as many as the width asks for, and
denote the number that was padded.
-/

namespace TypedExpr.Text

/-! ## Where scanners stop -/

/-- Whether no character of the sort stands at the front. -/
def Stops (p : Char → Bool) (cs : List Char) : Prop := ∀ c ∈ cs.head?, p c = false

section Stops

variable {p : Char → Bool} {cs : List Char}

@[simp]
theorem stops_nil : Stops p [] := by
  intro c hc
  cases hc

@[simp]
theorem stops_cons {c : Char} : Stops p (c :: cs) ↔ p c = false := by
  simp only [Stops, List.head?_cons, Option.mem_some_iff, forall_eq']

theorem Stops.mono {q : Char → Bool} (h : Stops q cs) (hpq : ∀ c, p c → q c) : Stops p cs := by
  intro c hc
  have hq := h c hc
  cases hp : p c with
  | false => rfl
  | true => rw [hpq c hp] at hq; cases hq

theorem Stops.takeWhile (h : Stops p cs) : cs.takeWhile p = [] := by
  cases cs with
  | nil => rfl
  | cons c rest => rw [List.takeWhile_cons_of_neg (by rw [stops_cons.mp h]; decide)]

theorem Stops.dropWhile (h : Stops p cs) : cs.dropWhile p = cs := by
  cases cs with
  | nil => rfl
  | cons c rest => rw [List.dropWhile_cons_of_neg (by rw [stops_cons.mp h]; decide)]

end Stops

variable {ds rest : List Char}

theorem spanDigits_append (hds : ∀ c ∈ ds, c.isDigit) (hrest : Stops Char.isDigit rest) :
    spanDigits (ds ++ rest) = (ds, rest) := by
  unfold spanDigits
  rw [List.takeWhile_append_of_pos hds, List.dropWhile_append_of_pos hds, hrest.takeWhile,
    hrest.dropWhile, List.append_nil]

/-- White space is skipped where there is some only. -/
theorem skipBlank_eq (h : Stops isBlank rest) : skipBlank rest = rest := h.dropWhile

theorem isBlank_of_isDigit {c : Char} (h : c.isDigit) : isBlank c = false := by
  simp only [Char.isDigit, Bool.and_eq_true, decide_eq_true_eq] at h
  have hlow : 48 ≤ c.toNat := UInt32.le_iff_toNat_le.mp h.1
  have hhigh : c.toNat ≤ 57 := UInt32.le_iff_toNat_le.mp h.2
  simp only [isBlank, Bool.or_eq_false_iff, Bool.and_eq_false_iff, beq_eq_false_iff_ne,
    decide_eq_false_iff_not]
  omega

/-- Digits stand for themselves behind optional white space. -/
theorem skipBlank_append (hds : ∀ c ∈ ds, c.isDigit) (hne : ds ≠ []) :
    skipBlank (ds ++ rest) = ds ++ rest := by
  refine skipBlank_eq ?_
  cases ds with
  | nil => exact absurd rfl hne
  | cons d ds =>
    rw [List.cons_append, stops_cons]
    exact isBlank_of_isDigit (hds d List.mem_cons_self)

/-- Where digits stand there is no sign. -/
theorem append_ne_cons (hds : ∀ c ∈ ds, c.isDigit) (hne : ds ≠ []) {c : Char}
    (hc : c.isDigit = false) (tail : List Char) : ds ++ rest ≠ c :: tail := by
  intro heq
  cases ds with
  | nil => exact hne rfl
  | cons d ds =>
    obtain ⟨rfl, -⟩ := List.cons.inj heq
    rw [hds d List.mem_cons_self] at hc
    cases hc

/-! ## Digits -/

/-- Digits have no leading zero. -/
theorem eq_nil_of_digits_eq_zero_cons {n : Nat} (h : digits n = '0' :: ds) : ds = [] := by
  induction n using Nat.strongRecOn generalizing ds with
  | ind n ih =>
    rw [digits, Nat.toDigits_eq_if (by decide)] at h
    split at h
    next => exact (List.cons.inj h).2.symm
    next hn =>
      exfalso
      obtain ⟨d, front, hfront⟩ := List.exists_cons_of_ne_nil (digits_ne_nil (n / 10))
      rw [← digits, hfront, List.cons_append] at h
      obtain ⟨rfl, -⟩ := List.cons.inj h
      -- the digits in front of the last one are those of n / 10, which would be zero
      have hzero : n / 10 = 0 := by
        rw [← natOfDigits_digits (n / 10), hfront, ih (n / 10) (by omega) hfront]
        rfl
      omega

section Padded

variable (width n : Nat)

theorem isDigit_of_mem_padded {c : Char} (h : c ∈ padded width n) : c.isDigit := by
  rcases List.mem_append.mp h with h | h
  · rw [List.eq_of_mem_replicate h]
    rfl
  · exact isDigit_of_mem_digits h

theorem padded_ne_nil : padded width n ≠ [] := by
  intro h
  exact digits_ne_nil n (List.append_eq_nil_iff.mp h).2

theorem natOfDigits_zeros (count : Nat) (cs : List Char) :
    natOfDigits (List.replicate count '0' ++ cs) = natOfDigits cs := by
  induction count with
  | zero => rfl
  | succ count ih => exact ih

@[simp]
theorem natOfDigits_padded : natOfDigits (padded width n) = n := by
  rw [padded, natOfDigits_zeros, natOfDigits_digits]

theorem le_length_padded : width ≤ (padded width n).length := by
  rw [padded, List.length_append, List.length_replicate]
  omega

theorem length_padded {width n : Nat} (hwidth : 0 < width) (hn : n < 10 ^ width) :
    (padded width n).length = width := by
  have hdigits : (digits n).length ≤ width :=
    (Nat.length_toDigits_le_iff (by decide) hwidth).mpr hn
  rw [padded, List.length_append, List.length_replicate]
  omega

end Padded

end TypedExpr.Text
