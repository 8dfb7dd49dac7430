import TypedExpr.Decimal.Arithmetic
import TypedExpr.Decimal.Text
import TypedExpr.Proofs.Scanning

/-!
# Decimal texts read back

The text of a decimal has all its places, so the reader gets back sign, coefficient and scale; only
the sign of a zero is lost.
-/

namespace TypedExpr.Decimal

open Text

/-! ## Scanning -/

theorem le_ofDigitChars (ds : List Char) (n : Nat) : n ≤ Nat.ofDigitChars 10 ds n := by
  induction ds generalizing n with
  | nil => exact Nat.le_refl n
  | cons c ds ih =>
    rw [Nat.ofDigitChars_cons]
    exact Nat.le_trans (by omega) (ih _)

section Scan

variable {ds : List Char} (hds : ∀ c ∈ ds, c.isDigit)
include hds

/-- Digits of the whole part are taken as long as the coefficient has room. -/
theorem scan_whole {coefficient : Nat} (hroom : Nat.ofDigitChars 10 ds coefficient < 2 ^ 96)
    (seen : Bool) (rest : List Char) :
    scan coefficient 0 false seen (ds ++ rest) =
      scan (Nat.ofDigitChars 10 ds coefficient) 0 false (seen || !ds.isEmpty) rest := by
  induction ds generalizing coefficient seen with
  | nil => rw [List.isEmpty_nil, Bool.not_true, Bool.or_false]; rfl
  | cons c ds ih =>
    rw [Nat.ofDigitChars_cons, Nat.mul_comm] at hroom ⊢
    have hnext := Nat.lt_of_le_of_lt (le_ofDigitChars ds _) hroom
    rw [List.cons_append, scan, if_pos (hds c List.mem_cons_self), if_neg (by decide),
      if_neg (Nat.not_le_of_lt hnext), ih (fun c hc => hds c (List.mem_cons_of_mem _ hc)) hroom]
    simp only [Bool.true_or, List.isEmpty_cons, Bool.not_false, Bool.or_true]

/-- Up to 28 places are taken as long as the coefficient has room. -/
theorem scan_places {coefficient scale : Nat}
    (hroom : Nat.ofDigitChars 10 ds coefficient < 2 ^ 96) (hscale : scale + ds.length ≤ 28) :
    scan coefficient scale true true ds =
      some (Nat.ofDigitChars 10 ds coefficient, scale + ds.length) := by
  induction ds generalizing coefficient scale with
  | nil => rfl
  | cons c ds ih =>
    rw [Nat.ofDigitChars_cons, Nat.mul_comm] at hroom ⊢
    rw [List.length_cons] at hscale
    have hnext := Nat.lt_of_le_of_lt (le_ofDigitChars ds _) hroom
    rw [scan, if_pos (hds c List.mem_cons_self), if_pos rfl, if_neg (by omega),
      ih (fun c hc => hds c (List.mem_cons_of_mem _ hc)) hroom (by omega), List.length_cons,
      Nat.add_right_comm, Nat.add_assoc]

end Scan

/-! ## Reading back -/

variable (d : Decimal)

/-- The digits without the sign: a whole part, and the places behind a point if there are any. -/
theorem exists_number : ∃ whole places, whole ≠ [] ∧ places.length = d.scale ∧
    whole ++ places = padded (d.scale + 1) d.coefficient ∧
    d.chars = (if d.negative then ['-'] else []) ++
      (whole ++ if d.scale = 0 then [] else '.' :: places) := by
  have hlength := le_length_padded (d.scale + 1) d.coefficient
  refine ⟨(padded (d.scale + 1) d.coefficient).take _, (padded (d.scale + 1) d.coefficient).drop _,
    ?_, ?_, List.take_append_drop ((padded (d.scale + 1) d.coefficient).length - d.scale) _, ?_⟩
  · intro h
    have := congrArg List.length h
    rw [List.length_take, List.length_nil] at this
    omega
  · rw [List.length_drop]
    omega
  · unfold chars
    by_cases hscale : d.scale = 0
    · cases d.negative <;> simp only [hscale, if_true, if_false, Bool.false_eq_true,
        List.append_nil, List.nil_append, List.singleton_append]
    · cases d.negative <;> simp only [hscale, if_true, if_false, Bool.false_eq_true,
        List.nil_append, List.singleton_append]

/-- The digits denote the coefficient, and there are as many places as the scale says. -/
theorem scan_number {whole places : List Char} (hne : whole ≠ [])
    (hlength : places.length = d.scale)
    (hdigits : whole ++ places = padded (d.scale + 1) d.coefficient) :
    scan 0 0 false false (whole ++ if d.scale = 0 then [] else '.' :: places) =
      some (d.coefficient, d.scale) := by
  have hall : ∀ c ∈ whole ++ places, c.isDigit := by
    rw [hdigits]
    exact fun c hc => isDigit_of_mem_padded _ _ hc
  have hwhole : ∀ c ∈ whole, c.isDigit := fun c hc => hall c (List.mem_append_left _ hc)
  have hplaces : ∀ c ∈ places, c.isDigit := fun c hc => hall c (List.mem_append_right _ hc)
  -- the coefficient, read as the whole part and then the places
  have hcoefficient :
      Nat.ofDigitChars 10 places (Nat.ofDigitChars 10 whole 0) = d.coefficient := by
    rw [← Nat.ofDigitChars_append, hdigits]
    exact natOfDigits_padded _ _
  have hroom : Nat.ofDigitChars 10 places (Nat.ofDigitChars 10 whole 0) < 2 ^ 96 := by
    rw [hcoefficient]
    exact d.coefficient_lt
  have hseen : (false || !whole.isEmpty) = true := by
    cases whole with
    | nil => exact absurd rfl hne
    | cons c cs => rfl
  rw [scan_whole hwhole (Nat.lt_of_le_of_lt (le_ofDigitChars places _) hroom), hseen]
  split
  next hscale =>
    rw [hscale] at hlength ⊢
    rw [List.eq_nil_of_length_eq_zero hlength] at hcoefficient
    rw [scan, if_pos rfl, ← hcoefficient]
    rfl
  next hscale =>
    rw [scan, if_neg (by decide), if_pos ⟨rfl, by decide⟩,
      scan_places hplaces hroom (by rw [hlength, Nat.zero_add]; exact d.scale_le),
      hcoefficient, hlength, Nat.zero_add]

theorem readPlain?_chars : readPlain? d.chars = some d.unsignZero := by
  obtain ⟨whole, places, hne, hlength, hdigits, hchars⟩ := d.exists_number
  have hscan := d.scan_number hne hlength hdigits
  have hparts : ofParts? d.negative d.coefficient d.scale = some d.unsignZero :=
    ofParts?_of_lt d.coefficient_lt d.scale_le
  rw [hchars]
  cases hnegative : d.negative with
  | true =>
    rw [if_pos rfl, List.singleton_append]
    simp only [readPlain?, hscan, Option.bind_some]
    rw [← hparts, hnegative]
  | false =>
    have hwhole : ∀ c ∈ whole, c.isDigit := fun c hc =>
      isDigit_of_mem_padded _ _ (hdigits ▸ List.mem_append_left places hc)
    rw [if_neg Bool.false_ne_true, List.nil_append]
    simp only [readPlain?]
    split
    next heq => exact absurd heq (append_ne_cons hwhole hne (by decide) _)
    next heq => exact absurd heq (append_ne_cons hwhole hne (by decide) _)
    next =>
      simp only [hscan, Option.bind_some]
      rw [← hparts, hnegative]

theorem isExponentMark_eq_false {c : Char} (h : c ∈ d.chars) : isExponentMark c = false := by
  obtain ⟨whole, places, -, -, hdigits, hchars⟩ := d.exists_number
  have hall : c ∈ whole ++ places → isExponentMark c = false := by
    rw [hdigits]
    intro hmem
    have hdigit := isDigit_of_mem_padded _ _ hmem
    cases hmark : isExponentMark c with
    | false => rfl
    | true =>
      simp only [isExponentMark, Bool.or_eq_true, beq_iff_eq] at hmark
      rcases hmark with rfl | rfl <;> cases hdigit
  rw [hchars] at h
  rcases List.mem_append.mp h with h | h
  · split at h
    · rw [List.mem_singleton.mp h]
      rfl
    · cases h
  · rcases List.mem_append.mp h with h | h
    · exact hall (List.mem_append_left _ h)
    · split at h
      · cases h
      · rcases List.mem_cons.mp h with rfl | h
        · rfl
        · exact hall (List.mem_append_right _ h)

/-- **Reading back.** A decimal is read back from its text, up to the sign of a zero. -/
theorem ofText?_text : ofText? d.text = some d.unsignZero := by
  have hdrop : d.chars.dropWhile (!isExponentMark ·) = [] := by
    rw [← List.append_nil d.chars, List.dropWhile_append_of_pos, List.dropWhile_nil]
    intro c hc
    rw [d.isExponentMark_eq_false hc]
    rfl
  rw [ofText?, text, String.toList_ofList, read?, hdrop]
  exact d.readPlain?_chars

/-- The number that is read back is the same one. -/
theorem same_unsignZero : d.unsignZero.same d := by
  rw [same, compare, signed_unsignZero]
  exact beq_iff_eq.mpr (Int.compare_eq_eq.mpr rfl)

end TypedExpr.Decimal
