import LinkedDocs.Text.Decimal
import Mathlib.Algebra.GroupWithZero.Nat
import Mathlib.Tactic.ByContra

/-!
# Spellings of a number

A run of digits has a value, and among the runs of one length no two have the
same value. The padded numeral of a number is the only run of digits of that
value that has just the width, or is longer and does not begin with a zero.

* `digitsValue_lt`, `eq_of_digitsValue_eq`: the runs of one length.
* `natBelow?_eq_some_iff`: which runs of digits are read, and as what.
* `zeroPadded_digitsValue_iff`: which runs of digits are padded numerals.
* `decimalChars_eq_cons`: the first digit of a numeral.
* `IsHundredths`: the form of a decimal with two places on either side.
-/

namespace LinkedDocs.Text

/-- The value of a digit. -/
def digitValue (c : Char) : Nat := c.toNat - '0'.toNat

theorem digitValue_lt {c : Char} (h : c.isDigit = true) : digitValue c < 10 := by
  simp only [Char.isDigit, Bool.and_eq_true, decide_eq_true_eq] at h
  have hhigh : c.toNat ≤ 57 := UInt32.le_iff_toNat_le.1 h.2
  have hzero : '0'.toNat = 48 := rfl
  unfold digitValue
  omega

/-- Digits are told apart by their values. -/
theorem eq_of_digitValue_eq {c d : Char} (hc : c.isDigit = true) (hd : d.isDigit = true)
    (h : digitValue c = digitValue d) : c = d := by
  simp only [Char.isDigit, Bool.and_eq_true, decide_eq_true_eq] at hc hd
  have hclow : 48 ≤ c.toNat := UInt32.le_iff_toNat_le.1 hc.1
  have hdlow : 48 ≤ d.toNat := UInt32.le_iff_toNat_le.1 hd.1
  have hzero : '0'.toNat = 48 := rfl
  unfold digitValue at h
  exact Char.toNat_inj.1 (by omega)

/-! ## Runs of digits of one length -/

/-- The first digit counts as often as there are runs of the digits behind it. -/
theorem digitsValue_cons (c : Char) (digits : List Char) :
    digitsValue (c :: digits) = 10 ^ digits.length * digitValue c + digitsValue digits := by
  rw [digitsValue, Nat.ofDigitChars_cons, Nat.mul_zero, Nat.zero_add,
    Nat.ofDigitChars_eq_ofDigitChars_zero]
  rfl

/-- A run of digits has a value below the power of ten of its length. -/
theorem digitsValue_lt {digits : List Char} (h : ∀ c ∈ digits, c.isDigit = true) :
    digitsValue digits < 10 ^ digits.length := by
  induction digits with
  | nil => exact Nat.zero_lt_one
  | cons c digits ih =>
    obtain ⟨hc, hdigits⟩ := List.forall_mem_cons.1 h
    have hfirst := Nat.mul_le_mul_left (10 ^ digits.length)
      (Nat.succ_le_of_lt (digitValue_lt hc))
    have hrest := ih hdigits
    rw [Nat.mul_succ] at hfirst
    rw [digitsValue_cons, List.length_cons, Nat.pow_succ]
    omega

/-- Runs of digits of one length are told apart by their values. -/
theorem eq_of_digitsValue_eq {digits digits' : List Char}
    (h : ∀ c ∈ digits, c.isDigit = true) (h' : ∀ c ∈ digits', c.isDigit = true)
    (hlength : digits.length = digits'.length)
    (hvalue : digitsValue digits = digitsValue digits') : digits = digits' := by
  induction digits generalizing digits' with
  | nil => exact (List.length_eq_zero_iff.1 hlength.symm).symm
  | cons c digits ih =>
    obtain ⟨d, digits', rfl⟩ := List.exists_cons_of_length_eq_add_one hlength.symm
    obtain ⟨hc, hdigits⟩ := List.forall_mem_cons.1 h
    obtain ⟨hd, hdigits'⟩ := List.forall_mem_cons.1 h'
    have hlen : digits.length = digits'.length := Nat.succ.inj hlength
    rw [digitsValue_cons, digitsValue_cons, hlen] at hvalue
    -- The first digit is the quotient and the value of the others is the remainder.
    have hlt := digitsValue_lt hdigits
    have hlt' := digitsValue_lt hdigits'
    rw [hlen] at hlt
    have hpos : 0 < 10 ^ digits'.length := Nat.zero_lt_of_lt hlt
    have hfirst : digitValue c = digitValue d := by
      have hquotient := congrArg (· / 10 ^ digits'.length) hvalue
      simpa only [Nat.mul_add_div hpos, Nat.div_eq_of_lt hlt, Nat.div_eq_of_lt hlt',
        Nat.add_zero] using hquotient
    rw [hfirst] at hvalue
    rw [eq_of_digitValue_eq hc hd hfirst, ih hdigits hdigits' hlen (Nat.add_left_cancel hvalue)]

/-! ## Numerals -/

/-- What is read is a run of digits, of at least one and with a value below the bound. -/
theorem natBelow?_eq_some_iff {bound n : Nat} {digits : List Char} :
    natBelow? bound digits = some n ↔
      digits ≠ [] ∧ (∀ c ∈ digits, c.isDigit = true) ∧ digitsValue digits = n ∧ n < bound := by
  unfold natBelow?
  split
  · rename_i hrefused
    constructor
    · intro h
      cases h
    · rintro ⟨hne, hall, -, -⟩
      rw [List.all_eq_true.2 hall, Bool.or_eq_true, List.isEmpty_iff] at hrefused
      exact absurd hrefused (not_or.2 ⟨hne, Bool.false_ne_true⟩)
  · rename_i hread
    rw [Bool.or_eq_true, List.isEmpty_iff, Bool.not_eq_true', not_or, Bool.not_eq_false,
      List.all_eq_true] at hread
    dsimp only
    rw [Option.ite_none_right_eq_some, Option.some.injEq]
    constructor
    · rintro ⟨hlt, rfl⟩
      exact ⟨hread.1, hread.2, rfl, hlt⟩
    · rintro ⟨-, -, rfl, hlt⟩
      exact ⟨hlt, rfl⟩

/-- Padding makes a numeral as long as the width, if it is not longer. -/
theorem length_zeroPadded_eq (width n : Nat) :
    (zeroPadded width n).length = max width (decimalChars n).length :=
  List.length_leftpad

/-- Two ASCII digits, a period and two more: a number of hundredths between `low` and `high`. -/
def IsHundredths (low high : Nat) (text : String) : Prop :=
  ∃ a b c d, text.toList = [a, b, '.', c, d] ∧ (∀ x ∈ [a, b, c, d], x.isDigit = true) ∧
    low ≤ digitsValue [a, b, c, d] ∧ digitsValue [a, b, c, d] ≤ high

/-- Without a zero in front, the value of a run of digits needs all of them. -/
theorem le_digitsValue {c : Char} {digits : List Char} (hc : c.isDigit = true) (hne : c ≠ '0') :
    10 ^ digits.length ≤ digitsValue (c :: digits) := by
  have hpos : 1 ≤ digitValue c := by
    refine Nat.one_le_iff_ne_zero.2 fun hzero => hne ?_
    exact eq_of_digitValue_eq hc rfl hzero
  have := Nat.mul_le_mul_left (10 ^ digits.length) hpos
  rw [digitsValue_cons]
  omega

/--
A run of at least so many digits is the padded numeral of its value exactly if it
has just the width or does not begin with a zero.
-/
theorem zeroPadded_digitsValue_iff {width : Nat} {digits : List Char} (hwidth : 0 < width)
    (h : ∀ c ∈ digits, c.isDigit = true) (hlength : width ≤ digits.length) :
    zeroPadded width (digitsValue digits) = digits ↔
      digits.length = width ∨ digits.head? ≠ some '0' := by
  obtain ⟨c, rest, rfl⟩ := List.exists_cons_of_ne_nil
    (List.ne_nil_of_length_pos (Nat.lt_of_lt_of_le hwidth hlength))
  obtain ⟨hc, hrest⟩ := List.forall_mem_cons.1 h
  have hlt := digitsValue_lt h
  have hfits : ∀ k, 0 < k → ((decimalChars (digitsValue (c :: rest))).length ≤ k ↔
      digitsValue (c :: rest) < 10 ^ k) := fun k hk =>
    Nat.length_toDigits_le_iff (by decide) hk
  have hpositive : 0 < (decimalChars (digitsValue (c :: rest))).length := Nat.length_toDigits_pos
  have hbelow := (hfits _ (Nat.succ_pos _)).2 hlt
  rw [List.length_cons] at hlength ⊢
  constructor
  · intro heq
    by_contra hneither
    obtain ⟨hlonger, hzero⟩ := not_or.1 hneither
    obtain rfl : c = '0' := Option.some.inj (not_not.1 hzero)
    -- A zero in front leaves the value to the other digits, so the numeral is shorter.
    have hvalue : digitsValue ('0' :: rest) < 10 ^ rest.length := by
      rw [digitsValue_cons, show digitValue '0' = 0 from rfl, Nat.mul_zero, Nat.zero_add]
      exact digitsValue_lt hrest
    have hshort := (hfits rest.length (by omega)).2 hvalue
    have hlen := congrArg List.length heq
    rw [length_zeroPadded_eq, List.length_cons] at hlen
    omega
  · intro hor
    refine eq_of_digitsValue_eq (fun _ hd => isDigit_of_mem_zeroPadded hd) h ?_
      (digitsValue_zeroPadded _ _)
    rw [length_zeroPadded_eq, List.length_cons]
    rcases hor with hsame | hne
    · omega
    · have hle : 10 ^ rest.length ≤ digitsValue (c :: rest) :=
        le_digitsValue hc fun hzero => hne (congrArg some hzero)
      by_cases hsingle : rest.length = 0
      · omega
      · have hmany := mt (hfits rest.length (Nat.pos_of_ne_zero hsingle)).1 (Nat.not_lt.2 hle)
        omega

/--
The digits of a numeral without padding: there is a first one, and it is a zero only
if the number is.
-/
theorem decimalChars_eq_cons (n : Nat) :
    ∃ c digits, decimalChars n = c :: digits ∧ (∀ d ∈ c :: digits, d.isDigit = true) ∧
      (c = '0' → n = 0 ∧ digits = []) := by
  have hpadded : zeroPadded 1 n = decimalChars n := by
    have hpos : 1 ≤ (decimalChars n).length := Nat.length_toDigits_pos
    rw [zeroPadded, List.leftpad, Nat.sub_eq_zero_of_le hpos]
    rfl
  have hall : ∀ d ∈ decimalChars n, d.isDigit = true := by
    rw [← hpadded]
    exact fun _ => isDigit_of_mem_zeroPadded
  have hvalue : digitsValue (decimalChars n) = n := by
    rw [← hpadded, digitsValue_zeroPadded]
  -- Among the spellings of the number, this one has no spare zero.
  have hcanonical := (zeroPadded_digitsValue_iff Nat.one_pos hall Nat.length_toDigits_pos).1
    (by rw [hvalue, hpadded])
  obtain ⟨c, digits, hdigits⟩ :=
    List.exists_cons_of_ne_nil (show decimalChars n ≠ [] from Nat.toDigits_ne_nil)
  rw [hdigits] at hall hvalue hcanonical
  refine ⟨c, digits, hdigits, hall, ?_⟩
  rintro rfl
  have hnil : digits = [] := by simpa using hcanonical
  subst hnil
  exact ⟨hvalue.symm, rfl⟩

end LinkedDocs.Text
