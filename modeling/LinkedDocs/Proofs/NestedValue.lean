import LinkedDocs.Proofs.NestedRoundTrip
import LinkedDocs.Proofs.Numerals

/-!
# The value of the payload

The value is read as a double-precision number, which is the nearest one to the
decimal that is written, and compared with whole bounds. A decimal with two places
stands so far from a bound that it does not equal that rounding cannot carry it
across. So the rule for values is a condition on the decimal alone.

* `roundDiv_bounds`, `nearest_eq`: rounding to a number of double precision.
* `withinBounds_iff`: the bounds, in hundredths.
* `valueFault?_eq_none_iff`: the texts that pass the rule for values.
* `payload_read_back_and_judged`: whole payloads.
-/

namespace LinkedDocs

/-! ## Rounding -/

/-- A rounded quotient is off by a half at most. -/
theorem roundDiv_bounds (num : Nat) {den : Nat} (h : 0 < den) :
    2 * (roundDiv num den * den) ≤ 2 * num + den ∧
      2 * num ≤ 2 * (roundDiv num den * den) + den := by
  have hdivision := Nat.div_add_mod num den
  have hrest := Nat.mod_lt num h
  have hsucc : (num / den + 1) * den = den * (num / den) + den := by
    rw [Nat.succ_mul, Nat.mul_comm]
  have hmul : num / den * den = den * (num / den) := Nat.mul_comm _ _
  unfold roundDiv
  dsimp only
  split
  · rw [hsucc]
    omega
  · rw [hmul]
    omega

/-- A whole number that is at most the quotient is at most the rounded one. -/
theorem le_roundDiv {num den b : Nat} (hden : 0 < den) (h : b * den ≤ num) :
    b ≤ roundDiv num den := by
  have hbounds := roundDiv_bounds num hden
  refine Nat.lt_succ_iff.1 (Nat.lt_of_mul_lt_mul_right (a := den) ?_)
  rw [Nat.succ_mul]
  omega

/-- A whole number that is at least the quotient is at least the rounded one. -/
theorem roundDiv_le {num den b : Nat} (hden : 0 < den) (h : num ≤ b * den) :
    roundDiv num den ≤ b := by
  have hbounds := roundDiv_bounds num hden
  refine Nat.lt_succ_iff.1 (Nat.lt_of_mul_lt_mul_right (a := den) ?_)
  rw [Nat.succ_mul]
  omega

namespace Magnitude

/-- With no positive exponent, a magnitude has binary places. -/
theorem ratio_places (significand places : Nat) :
    (finite significand (-(places : Int))).ratio = (significand, 2 ^ places) := by
  unfold ratio timesPower
  dsimp only
  by_cases h : places = 0
  · subst h
    simp
  · rw [if_neg (by omega), Int.neg_neg, Int.toNat_natCast, Nat.one_mul]
    rfl

/-- The nearest number of so many binary places is a rounded quotient of that many. -/
theorem nearest_eq {num den places : Nat} (hnum : num ≠ 0) (hplaces : 0 < places)
    (h : exponentOf num den = -(places : Int)) :
    ∃ significand places' : Nat, nearest num den = finite significand (-(places' : Int)) ∧
      significand * 2 ^ places = roundDiv (num * 2 ^ places) den * 2 ^ places' := by
  have hscaled : scaled num den (-(places : Int)) = (num * 2 ^ places, den) := by
    unfold scaled timesPower
    rw [Int.neg_neg, if_pos (Int.natCast_nonneg places), Int.toNat_natCast]
    rfl
  unfold nearest
  rw [if_neg hnum, h]
  dsimp only
  rw [hscaled]
  dsimp only
  by_cases hcarry : roundDiv (num * 2 ^ places) den = Nat.pow 2 53
  · -- A significand of 54 bits is a power of two and gives up a place.
    refine ⟨Nat.pow 2 52, places - 1, ?_, ?_⟩
    · rw [if_pos hcarry, if_neg (by simp only [greatestExponent]; omega)]
      congr 1
      omega
    · obtain ⟨less, rfl⟩ := Nat.exists_eq_add_of_lt hplaces
      rw [hcarry, Nat.zero_add, Nat.add_sub_cancel, Nat.pow_succ]
      show 2 ^ 52 * (2 ^ less * 2) = 2 ^ 53 * 2 ^ less
      omega
  · refine ⟨roundDiv (num * 2 ^ places) den, places, ?_, rfl⟩
    rw [if_neg hcarry, if_neg (by simp only [greatestExponent]; omega)]

section

variable {b more significand places rounded places' : Nat}

/-- Numbers with binary places are compared as fractions. -/
theorem atMost_places {significand' : Nat} :
    (finite significand (-(places : Int))).atMost (finite significand' (-(places' : Int))) = true ↔
      significand * 2 ^ places' ≤ significand' * 2 ^ places := by
  have hatMost : (finite significand (-(places : Int))).atMost
      (finite significand' (-(places' : Int))) =
        decide ((finite significand (-(places : Int))).ratio.1 *
          (finite significand' (-(places' : Int))).ratio.2 ≤
            (finite significand' (-(places' : Int))).ratio.1 *
              (finite significand (-(places : Int))).ratio.2) := rfl
  rw [hatMost, ratio_places, ratio_places, decide_eq_true_eq]

/-- A whole number is compared with a rounded quotient. -/
theorem whole_atMost_iff (h : significand * 2 ^ more = rounded * 2 ^ places) :
    (finite (b * 2 ^ places') (-(places' : Int))).atMost
        (finite significand (-(places : Int))) = true ↔ b * 2 ^ more ≤ rounded := by
  have hpow : ∀ k, 0 < 2 ^ k := fun k => Nat.two_pow_pos k
  rw [atMost_places, Nat.mul_right_comm, Nat.mul_le_mul_right_iff (hpow places'),
    ← Nat.mul_le_mul_right_iff (hpow more), h, Nat.mul_right_comm,
    Nat.mul_le_mul_right_iff (hpow places)]

/-- A rounded quotient is compared with a whole number. -/
theorem atMost_whole_iff (h : significand * 2 ^ more = rounded * 2 ^ places) :
    (finite significand (-(places : Int))).atMost
        (finite (b * 2 ^ places') (-(places' : Int))) = true ↔ rounded ≤ b * 2 ^ more := by
  have hpow : ∀ k, 0 < 2 ^ k := fun k => Nat.two_pow_pos k
  rw [atMost_places, Nat.mul_right_comm b, Nat.mul_le_mul_right_iff (hpow places'),
    ← Nat.mul_le_mul_right_iff (hpow more), h, Nat.mul_right_comm b,
    Nat.mul_le_mul_right_iff (hpow places)]

end

/-! ## Hundredths -/

/-- Hundredths of two digits before the point have at least 45 binary places. -/
theorem exists_places {n : Nat} (h : n < 10000) :
    ∃ places : Nat, 45 ≤ places ∧ exponentOf n 100 = -(places : Int) := by
  have hlog : n.log2 < 14 := by
    by_cases hzero : n = 0
    · subst hzero
      decide
    · exact (Nat.log2_lt hzero).2 (Nat.lt_trans h (by decide))
  have hlow : exponentOf n 100 = (n.log2 : Int) - 59 ∨ exponentOf n 100 = (n.log2 : Int) - 58 := by
    have hmax : max ((n.log2 : Int) - (100 : Nat).log2 - 53) leastExponent =
        (n.log2 : Int) - 59 := by
      have : (100 : Nat).log2 = 6 := by decide
      simp only [leastExponent]
      omega
    unfold exponentOf
    dsimp only
    rw [hmax]
    split
    · exact .inl rfl
    · exact .inr (by omega)
  refine ⟨(-exponentOf n 100).toNat, ?_, ?_⟩
  · omega
  · omega

/-- A number of hundredths other than zero, by its rounded quotient. -/
theorem hundredths_eq {n : Nat} (hpos : 0 < n) (h : n < 10000) :
    ∃ significand places rounded more : Nat, 45 ≤ more ∧
      ofScientific n (-2) = finite significand (-(places : Int)) ∧
      significand * 2 ^ more = rounded * 2 ^ places ∧
      rounded = roundDiv (n * 2 ^ more) 100 := by
  have hdigits : (Text.decimalChars n).length ≤ 4 :=
    (Nat.length_toDigits_le_iff (by decide) (by decide)).2 h
  obtain ⟨more, hmore, hexponent⟩ := exists_places h
  obtain ⟨significand, places, heq, hvalue⟩ :=
    nearest_eq (Nat.ne_of_gt hpos) (by omega) hexponent
  refine ⟨significand, places, _, more, hmore, ?_, hvalue, rfl⟩
  unfold ofScientific
  dsimp only
  rw [if_neg (by simp only [mostPlaces]; omega), if_neg (by simp only [mostPlaces]; omega)]
  exact heq

end Magnitude

namespace Evaluation

open Text

/--
The bounds, in hundredths. A bound is a number of double precision, so rounding
does not carry a decimal across it; and what differs from it by a hundredth is not
rounded to it.
-/
theorem withinBounds_iff {n : Nat} (h : n < 10000) :
    withinBounds (.ofScientific n (-2)) = true ↔ 500 ≤ n ∧ n ≤ 9900 := by
  have hleast : Magnitude.ofNat valueBounds.1 = .finite (5 * 2 ^ 50) (-(50 : Nat)) := by
    decide +kernel
  have hmost : Magnitude.ofNat valueBounds.2 = .finite (99 * 2 ^ 46) (-(46 : Nat)) := by
    decide +kernel
  rcases Nat.eq_zero_or_pos n with rfl | hpos
  · decide +kernel
  obtain ⟨significand, places, rounded, more, hmore, heq, hvalue, hrounded⟩ :=
    Magnitude.hundredths_eq hpos h
  rw [withinBounds, hleast, hmost, heq, Bool.and_eq_true, Magnitude.whole_atMost_iff hvalue,
    Magnitude.atMost_whole_iff hvalue, hrounded]
  -- A hundredth is many units of the last place, so it outweighs the rounding.
  have hunits : 2 ^ 45 ≤ 2 ^ more := Nat.pow_le_pow_right (by decide) hmore
  have hbounds := roundDiv_bounds (n * 2 ^ more) (show 0 < 100 by decide)
  constructor
  · rintro ⟨hlow, hhigh⟩
    constructor
    · by_contra hlt
      have := Nat.mul_le_mul_right (2 ^ more) (show n ≤ 499 by omega)
      omega
    · by_contra hlt
      have := Nat.mul_le_mul_right (2 ^ more) (show 9901 ≤ n by omega)
      omega
  · rintro ⟨hlow, hhigh⟩
    have hleft := Nat.mul_le_mul_right (2 ^ more) hlow
    have hright := Nat.mul_le_mul_right (2 ^ more) hhigh
    exact ⟨le_roundDiv (by decide) (by omega), roundDiv_le (by decide) (by omega)⟩

theorem fourDigits_lt {a b c d : Char} (h : ∀ x ∈ [a, b, c, d], x.isDigit = true) :
    digitsValue [a, b, c, d] < 10000 := by
  have hlt := digitsValue_lt h
  rwa [List.length_cons, List.length_cons, List.length_cons, List.length_singleton] at hlt

/-- A text of the right form is a number exactly if its digits are ASCII. -/
theorem number?_eq_some_iff {text : List Char} {x : Magnitude} :
    number? text = some x ↔ ∃ a b c d, text = [a, b, '.', c, d] ∧
      (∀ y ∈ [a, b, c, d], y.isDigit = true) ∧
      x = .ofScientific (digitsValue [a, b, c, d]) (-2) := by
  constructor
  · intro h
    unfold number? at h
    split at h
    · obtain ⟨n, hn, rfl⟩ := Option.map_eq_some_iff.1 h
      obtain ⟨-, hdigits, rfl, -⟩ := natBelow?_eq_some_iff.1 hn
      exact ⟨_, _, _, _, rfl, hdigits, rfl⟩
    · cases h
  · rintro ⟨a, b, c, d, rfl, hdigits, rfl⟩
    refine Option.map_eq_some_iff.2 ⟨_, natBelow?_eq_some_iff.2 ⟨?_, hdigits, rfl, ?_⟩, rfl⟩
    · exact List.cons_ne_nil _ _
    · exact fourDigits_lt hdigits

theorem matchesPattern_of_digits {a b c d : Char} (h : ∀ x ∈ [a, b, c, d], x.isDigit = true) :
    matchesPattern [a, b, '.', c, d] = true :=
  List.all_eq_true.2 fun x hx => isDecimalDigit_of_isDigit (h x hx)

/--
The texts that pass the rule for values. Digits of other scripts have the right
form and are no number, and a number out of bounds is none of the decimals.
-/
theorem valueFault?_eq_none_iff {text : String} :
    valueFault? text = none ↔ IsHundredths 500 9900 text := by
  unfold valueFault?
  constructor
  · intro h
    split at h
    · cases h
    · split at h
      · cases h
      · rename_i x hx
        split at h
        · rename_i hwithin
          obtain ⟨a, b, c, d, htext, hdigits, rfl⟩ := number?_eq_some_iff.1 hx
          exact ⟨a, b, c, d, htext, hdigits, (withinBounds_iff (fourDigits_lt hdigits)).1 hwithin⟩
        · cases h
  · rintro ⟨a, b, c, d, htext, hdigits, hbounds⟩
    have hnumber := number?_eq_some_iff.2 ⟨a, b, c, d, htext, hdigits, rfl⟩
    rw [hnumber, htext, matchesPattern_of_digits hdigits]
    exact if_pos ((withinBounds_iff (fourDigits_lt hdigits)).2 hbounds)

end Evaluation

namespace Nested

open Evaluation Text

/-- What was read of a payload is the payload. -/
theorem ofValue_read (n : Nested) :
    ofValue (.object
      [("key", .string n.key), ("name", .string n.name), ("value", .string n.value)]) = .ok n :=
  rfl

/--
A payload of any texts is read back from its JSON as it was. The evaluator accepts
its JSON exactly if the value is two ASCII digits, a period and two more, of a number
from 5.00 to 99.00; any other value breaks the rule for values, and no payload breaks
the rule for the shape.
-/
theorem payload_read_back_and_judged (n : Nested) :
    (∃ v, Json.read n.toJson = .ok v ∧ ofValue v = .ok n) ∧
    (nestedFault? n.toJson = none ↔ IsHundredths 500 9900 n.value) ∧
    ((∃ message, nestedFault? n.toJson = some (.nestedValue, message)) ↔
      ¬ IsHundredths 500 9900 n.value) ∧
    ∀ message, nestedFault? n.toJson ≠ some (.nested, message) := by
  rw [nestedFault?_toJson]
  refine ⟨⟨_, read_toJson n, ofValue_read n⟩, ?_, ?_, fun message => ?_⟩
  · rw [Option.map_eq_none_iff, valueFault?_eq_none_iff]
  · rw [← valueFault?_eq_none_iff, ← ne_eq, Option.ne_none_iff_exists']
    constructor
    · rintro ⟨message, h⟩
      obtain ⟨fault, hfault, -⟩ := Option.map_eq_some_iff.1 h
      exact ⟨fault, hfault⟩
    · rintro ⟨fault, hfault⟩
      exact ⟨fault, Option.map_eq_some_iff.2 ⟨fault, hfault, rfl⟩⟩
  · intro h
    obtain ⟨fault, -, heq⟩ := Option.map_eq_some_iff.1 h
    cases heq

end Nested

end LinkedDocs
