/-!
# Decimal numerals

Numbers as runs of ASCII digits: written with leading zeros up to a minimum
width, and read back with an upper bound.

* `zeroPadded w n` has at least `w` digits and never cuts a longer number.
* `natBelow? bound` reads a non-empty run of digits whose value is below `bound`.
-/

namespace LinkedDocs.Text

/-- One more than the largest 64-bit index, seed or count. -/
def word64 : Nat := UInt64.size

/-- The decimal digits of `n`. -/
def decimalChars (n : Nat) : List Char := Nat.toDigits 10 n

/-- The decimal numeral of `n`, without padding. -/
def decimal (n : Nat) : String := String.ofList (decimalChars n)

/-- The decimal numeral of an integer, with `-` in front of a negative one. -/
def signedDecimal (n : Int) : String :=
  if n < 0 then "-" ++ decimal n.natAbs else decimal n.natAbs

/-- The digits of `n` with zeros in front up to `width`; the width is a minimum. -/
def zeroPadded (width n : Nat) : List Char :=
  (decimalChars n).leftpad width '0'

/-- The value of a run of digits, read from the left. -/
def digitsValue (digits : List Char) : Nat := Nat.ofDigitChars 10 digits 0

/-- Reads a non-empty run of ASCII digits with a value below `bound`. -/
def natBelow? (bound : Nat) (digits : List Char) : Option Nat :=
  if digits.isEmpty || !digits.all Char.isDigit then none
  else
    let value := digitsValue digits
    if value < bound then some value else none

/-- A padded numeral holds digits only. -/
theorem isDigit_of_mem_zeroPadded {width n : Nat} {c : Char} (h : c ∈ zeroPadded width n) :
    c.isDigit = true := by
  rcases List.mem_append.1 h with hz | hd
  · rw [(List.mem_replicate.1 hz).2]
    rfl
  · exact Nat.isDigit_of_mem_toDigits (by decide) (by decide) hd

/-- A padded numeral is read back as its number. -/
theorem digitsValue_zeroPadded (width n : Nat) : digitsValue (zeroPadded width n) = n := by
  simp only [digitsValue, zeroPadded, decimalChars, List.leftpad]
  rw [Nat.ofDigitChars_append, Nat.ofDigitChars_replicate_zero, Nat.mul_zero,
    Nat.ofDigitChars_ten_toDigits]

theorem zeroPadded_injective (width : Nat) : Function.Injective (zeroPadded width) := by
  intro m n h
  rw [← digitsValue_zeroPadded width m, h, digitsValue_zeroPadded]

theorem zeroPadded_ne_nil (width n : Nat) : zeroPadded width n ≠ [] :=
  List.append_ne_nil_of_right_ne_nil _ Nat.toDigits_ne_nil

theorem le_length_zeroPadded (width n : Nat) : width ≤ (zeroPadded width n).length := by
  rw [zeroPadded, List.length_leftpad]
  exact Nat.le_max_left _ _

/-- A number that fits the width is padded to it. -/
theorem length_zeroPadded {width n : Nat} (hwidth : 0 < width) (h : n < Nat.pow 10 width) :
    (zeroPadded width n).length = width := by
  have := (Nat.length_toDigits_le_iff (by decide) hwidth).2 h
  rw [zeroPadded, List.length_leftpad]
  exact Nat.max_eq_left this

/-- A padded numeral below the bound is read as its number. -/
theorem natBelow?_zeroPadded (bound width n : Nat) :
    natBelow? bound (zeroPadded width n) = if n < bound then some n else none := by
  have hall : (zeroPadded width n).all Char.isDigit = true :=
    List.all_eq_true.2 fun _ hc => isDigit_of_mem_zeroPadded hc
  have hne : (zeroPadded width n).isEmpty = false := by
    simpa using zeroPadded_ne_nil width n
  simp [natBelow?, hall, hne, digitsValue_zeroPadded]

end LinkedDocs.Text
