import TypedExpr.Word

/-!
# Digits and white space

What the texts of numbers, dates and intervals are made of: natural numbers and integers as decimal
digits, and back, and the white space that some readers skip. `readNat?_digits` and
`readInt?_signed` say that what is written reads back.
-/

namespace TypedExpr.Text

/-- The decimal digits of a number, without leading zeros; zero is one digit. -/
def digits (n : Nat) : List Char := Nat.toDigits 10 n

/-- The digits of a number behind zeros that fill the width. -/
def padded (width n : Nat) : List Char :=
  List.replicate (width - (digits n).length) '0' ++ digits n

/-- An integer: a minus sign if negative, then the digits of its magnitude. -/
def signed : Int → List Char
  | .ofNat n => digits n
  | .negSucc n => '-' :: digits (n + 1)

/-- The number that a list of decimal digits denotes. -/
def natOfDigits (cs : List Char) : Nat := Nat.ofDigitChars 10 cs 0

/-- Reads digits alone, at least one. -/
def readNat? (cs : List Char) : Option Nat :=
  if cs ≠ [] ∧ cs.all (·.isDigit) then some (natOfDigits cs) else none

/-- Reads an optional minus sign and digits. -/
def readInt? : List Char → Option Int
  | '-' :: cs => (readNat? cs).map fun n => -(n : Int)
  | cs => (readNat? cs).map fun n => (n : Int)

/-- The longest front part of decimal digits, and the rest. -/
def spanDigits (cs : List Char) : List Char × List Char :=
  (cs.takeWhile (·.isDigit), cs.dropWhile (·.isDigit))

@[simp]
theorem natOfDigits_digits (n : Nat) : natOfDigits (digits n) = n :=
  Nat.ofDigitChars_toDigits (by decide) (by decide)

theorem digits_ne_nil (n : Nat) : digits n ≠ [] := by
  unfold digits
  rw [Nat.toDigits_eq_if (by decide)]
  split <;> simp

theorem isDigit_of_mem_digits {n : Nat} {c : Char} (h : c ∈ digits n) : c.isDigit = true :=
  Nat.isDigit_of_mem_toDigits (by decide) (by decide) h

@[simp]
theorem readNat?_digits (n : Nat) : readNat? (digits n) = some n := by
  have h : (digits n).all (·.isDigit) = true := List.all_eq_true.2 fun _ => isDigit_of_mem_digits
  simp [readNat?, digits_ne_nil, h]

@[simp]
theorem readInt?_signed (i : Int) : readInt? (signed i) = some i := by
  cases i with
  | ofNat n =>
    have hd : ∀ cs, digits n ≠ '-' :: cs := by
      intro cs h
      have : '-' ∈ digits n := by rw [h]; exact List.mem_cons_self
      exact absurd (isDigit_of_mem_digits this) (by decide)
    show readInt? (digits n) = _
    unfold readInt?
    split
    · next h => exact absurd h (hd _)
    · simp
  | negSucc n =>
    have h : readInt? ('-' :: digits (n + 1)) = some (-((n + 1 : Nat) : Int)) := by
      simp [readInt?]
    exact h

/-! ## White space -/

/-- The Unicode property White_Space. -/
def isBlank (c : Char) : Bool :=
  let n := c.toNat
  (9 ≤ n && n ≤ 13) || n == 0x20 || n == 0x85 || n == 0xA0 || n == 0x1680 ||
    (0x2000 ≤ n && n ≤ 0x200A) || n == 0x2028 || n == 0x2029 || n == 0x202F || n == 0x205F ||
    n == 0x3000

/-- What follows the white space at the front. -/
def skipBlank (cs : List Char) : List Char := cs.dropWhile isBlank

end TypedExpr.Text
