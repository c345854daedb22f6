import LinkedDocs.Text.Decimal

/-!
# Binary floating point, exactly

Double-precision numbers as a sign and a magnitude `significand · 2 ^ exponent`
in exact integer arithmetic, with

* `Magnitude.nearest`: the nearest magnitude to a fraction, ties to the even
  significand, infinite past the largest;
* `Magnitude.fixed`: a fixed number of decimal places, ties to the even digit;
* `Magnitude.shortest`: the fewest digits that read back as the same number, and
  of those the nearest; a `Tie` decides between two that are equally near.
-/

namespace LinkedDocs

/-- The size of a double-precision number. -/
inductive Magnitude where
  /-- `significand · 2 ^ exponent`. -/
  | finite (significand : Nat) (exponent : Int)
  | infinite
  | notANumber
  deriving DecidableEq, Repr

/-- A double-precision number. -/
structure Binary64 where
  negative : Bool
  magnitude : Magnitude
  deriving DecidableEq, Repr

/-- A quotient rounded to the nearest integer, a half to the even one. -/
def roundDiv (num den : Nat) : Nat :=
  let quotient := num / den
  let twice := 2 * (num % den)
  if den < twice ∨ twice = den ∧ quotient % 2 = 1 then quotient + 1 else quotient

namespace Magnitude

/-- The exponent of the smallest numbers. -/
def leastExponent : Int := -1074

/-- The exponent of the largest numbers. -/
def greatestExponent : Int := 971

/-- The fraction `num / den` times `base ^ exponent`. -/
def timesPower (base : Nat) (exponent : Int) (num den : Nat) : Nat × Nat :=
  if 0 ≤ exponent then (num * base.pow exponent.toNat, den)
  else (num, den * base.pow (-exponent).toNat)

/-- `num / den` in units of `2 ^ exponent`, as a fraction. -/
def scaled (num den : Nat) (exponent : Int) : Nat × Nat := timesPower 2 (-exponent) num den

/-- The exponent at which `num / den` has a significand of 53 bits, or the least one. -/
def exponentOf (num den : Nat) : Int :=
  let low := max ((num.log2 : Int) - den.log2 - 53) leastExponent
  let (n, d) := scaled num den low
  if n / d < Nat.pow 2 53 then low else low + 1

/-- The magnitude nearest to `num / den`. -/
def nearest (num den : Nat) : Magnitude :=
  if num = 0 then finite 0 leastExponent
  else
    let exponent := exponentOf num den
    let (n, d) := scaled num den exponent
    let significand := roundDiv n d
    let (significand, exponent) :=
      if significand = Nat.pow 2 53 then (Nat.pow 2 52, exponent + 1) else (significand, exponent)
    if greatestExponent < exponent then infinite else finite significand exponent

/-- A magnitude as a fraction; zero stands in where there is none. -/
def ratio : Magnitude → Nat × Nat
  | finite significand exponent => timesPower 2 exponent significand 1
  | _ => (0, 1)

/-- The first number is at most the second; with what is not a number, none is. -/
def atMost : Magnitude → Magnitude → Bool
  | notANumber, _ => false
  | _, notANumber => false
  | _, infinite => true
  | infinite, finite .. => false
  | a, b => a.ratio.1 * b.ratio.2 ≤ b.ratio.1 * a.ratio.2

/-- The magnitude is zero. -/
def isZero : Magnitude → Bool
  | finite significand _ => significand = 0
  | _ => false

/-- Decimal numbers with more digits than this before the point are infinite. -/
def mostPlaces : Nat := 400

/-- The nearest magnitude to `digits · 10 ^ power`. -/
def ofScientific (digits : Nat) (power : Int) : Magnitude :=
  let places := (Text.decimalChars digits).length + power
  if digits = 0 ∨ places < -(mostPlaces : Int) then finite 0 leastExponent
  else if mostPlaces < places then infinite
  else
    let (num, den) := timesPower 10 power digits 1
    nearest num den

/-- The nearest magnitude to a natural number. -/
def ofNat (n : Nat) : Magnitude := nearest n 1

/-- The nearest magnitude to a power of ten. -/
def powerOfTen (n : Nat) : Magnitude := nearest (Nat.pow 10 n) 1

/-- The product of two finite magnitudes, rounded. -/
def mul (a b : Magnitude) : Magnitude :=
  nearest (a.ratio.1 * b.ratio.1) (a.ratio.2 * b.ratio.2)

/-- The quotient of two finite magnitudes, rounded. -/
def div (a b : Magnitude) : Magnitude :=
  nearest (a.ratio.1 * b.ratio.2) (a.ratio.2 * b.ratio.1)

/-! ## Decimal text -/

/-- A number of units of `10 ^ -places`, with a period if there are any places. -/
def placed (places units : Nat) : String :=
  if places = 0 then Text.decimal units
  else
    Text.decimal (units / Nat.pow 10 places) ++ "."
      ++ String.ofList (Text.zeroPadded places (units % Nat.pow 10 places))

/-- The magnitude with a fixed number of decimal places. -/
def fixed (places : Nat) (a : Magnitude) : String :=
  match a with
  | infinite => "inf"
  | notANumber => "NaN"
  | finite .. => placed places (roundDiv (a.ratio.1 * Nat.pow 10 places) a.ratio.2)

/-- A decimal number `digits · 10 ^ power`. -/
structure Decimal where
  digits : Nat
  power : Int
  deriving DecidableEq, Repr

/-- A decimal number as a fraction. -/
def Decimal.ratio (d : Decimal) : Nat × Nat := timesPower 10 d.power d.digits 1

/-- Reading the decimal number gives this magnitude. -/
def readsBack (a : Magnitude) (d : Decimal) : Bool := nearest d.ratio.1 d.ratio.2 = a

/-- The power of ten of the first digit of a positive fraction: an estimate, corrected once. -/
def leadingPower (num den : Nat) : Int :=
  let guess : Int := (((num.log2 : Int) - den.log2) * 30103) / 100000
  let atLeast (power : Int) : Bool :=
    let (num, den) := timesPower 10 (-power) num den
    den ≤ num
  if atLeast (guess + 1) then guess + 1
  else if atLeast guess then guess
  else guess - 1

/-- The next decimal number of `count` digits; after nines alone it has a greater power. -/
def Decimal.next (d : Decimal) (count : Nat) : Decimal :=
  if d.digits + 1 = Nat.pow 10 count then ⟨Nat.pow 10 (count - 1), d.power + 1⟩
  else ⟨d.digits + 1, d.power⟩

/-- The two decimal numbers of `count` digits next to the magnitude. -/
def neighbours (a : Magnitude) (count : Nat) : Decimal × Decimal :=
  let (num, den) := a.ratio
  let power := leadingPower num den - (count - 1 : Nat)
  let (num, den) := timesPower 10 (-power) num den
  let below : Decimal := ⟨num / den, power⟩
  (below, below.next count)

/-- Which of two decimal numbers is taken if both are equally near. -/
inductive Tie where
  /-- The greater one. -/
  | up
  /-- The one whose last digit is even. -/
  | even
  deriving DecidableEq, Repr

/-- The decimal number that is nearer to the magnitude. -/
def nearer (a : Magnitude) (tie : Tie) (low high : Decimal) : Decimal :=
  let (num, den) := a.ratio
  let twice := 2 * num * low.ratio.2 * high.ratio.2
  let sum := den * (low.ratio.1 * high.ratio.2 + high.ratio.1 * low.ratio.2)
  if twice < sum then low
  else if sum < twice then high
  else if tie = .even ∧ low.digits % 2 = 0 then low
  else high

/-- The first count of digits, from `count` on, at which a neighbour reads back. -/
def shortestFrom (a : Magnitude) (tie : Tie) : Nat → Nat → Decimal
  | 0, count => (neighbours a count).1
  | tries + 1, count =>
    let (low, high) := neighbours a count
    match a.readsBack low, a.readsBack high with
    | true, true => nearer a tie low high
    | true, false => low
    | false, true => high
    | false, false => shortestFrom a tie tries (count + 1)

/-- The decimal number of fewest digits that reads back as the magnitude; 17 are always enough. -/
def shortest (a : Magnitude) (tie : Tie) : Decimal :=
  if a.isZero then ⟨0, 0⟩ else shortestFrom a tie 17 1

/-- The trailing zeros of a text of decimals are dropped, and a period left at the end. -/
def trimZeros (text : List Char) : List Char :=
  let kept := (text.reverse.dropWhile (· = '0')).dropWhile (· = '.')
  kept.reverse

/-- A decimal number without an exponent. -/
def Decimal.positional (d : Decimal) : String :=
  if 0 ≤ d.power then Text.decimal (d.digits * Nat.pow 10 d.power.toNat)
  else
    let text := (placed (-d.power).toNat d.digits).toList
    String.ofList (trimZeros text)

/-- The shortest text that reads back, without an exponent. -/
def positional (a : Magnitude) (tie : Tie) : String :=
  match a with
  | infinite => "inf"
  | notANumber => "NaN"
  | finite .. => (a.shortest tie).positional

end Magnitude

namespace Binary64

/-- The shortest text that reads back, without an exponent; not a number has no sign. -/
def positional (x : Binary64) (tie : Magnitude.Tie) : String :=
  match x.magnitude with
  | .notANumber => "NaN"
  | m => (if x.negative then "-" else "") ++ m.positional tie

/-- The shortest text that reads back, with at least one decimal place. -/
def withPoint (x : Binary64) (tie : Magnitude.Tie) : String :=
  let text := x.positional tie
  match x.magnitude with
  | .finite .. => if text.toList.contains '.' then text else text ++ ".0"
  | _ => text

end Binary64

end LinkedDocs
