import LinkedDocs.Calendar.DateTime
import LinkedDocs.Text.Decimal

/-!
# Writing date-times

Years 0 to 9999 have four digits; other years have a sign and at least four. A
leap second is written as second 60. The fraction is left out if it is zero and
else has three, six or nine digits.

* `DateTime.toRow`: the layout of the `date` column, without a fraction.
* `DateTime.toIso`: the layout of option values, with `T` and a fraction.
-/

namespace LinkedDocs.Calendar

open Text

/-- The characters of a year. -/
def yearChars (year : Int) : List Char :=
  if 0 ≤ year ∧ year ≤ 9999 then zeroPadded 4 year.toNat
  else (if year < 0 then '-' else '+') :: zeroPadded 4 year.natAbs

namespace Date

/-- Year, month and day with hyphens. -/
def chars (d : Date) : List Char :=
  yearChars d.year ++ '-' :: zeroPadded 2 d.month ++ '-' :: zeroPadded 2 d.day

end Date

namespace DateTime

/-- The second of the minute, 60 in a leap second. -/
def secondOfMinute (t : DateTime) : Nat :=
  t.second % 60 + if t.isLeapSecond then 1 else 0

/-- The fraction of the second, in nanoseconds. -/
def fraction (t : DateTime) : Nat := t.nanos % nanosPerSecond

/-- Hour, minute and second with colons. -/
def timeChars (t : DateTime) : List Char :=
  zeroPadded 2 (t.second / 3600) ++ ':' :: zeroPadded 2 (t.second / 60 % 60)
    ++ ':' :: zeroPadded 2 t.secondOfMinute

/-- The shortest of no, three, six and nine digits that gives the fraction exactly. -/
def fractionChars (nanos : Nat) : List Char :=
  if nanos = 0 then []
  else if nanos % 1000000 = 0 then '.' :: zeroPadded 3 (nanos / 1000000)
  else if nanos % 1000 = 0 then '.' :: zeroPadded 6 (nanos / 1000)
  else '.' :: zeroPadded 9 nanos

/-- Date and time with a space between, without the fraction. -/
def rowChars (t : DateTime) : List Char := t.date.chars ++ ' ' :: t.timeChars

/-- The text of the `date` column. -/
def toRow (t : DateTime) : String := String.ofList t.rowChars

/-- Date, the given separator, time and fraction. -/
def fullChars (separator : Char) (t : DateTime) : List Char :=
  t.date.chars ++ separator :: t.timeChars ++ fractionChars t.fraction

/-- The text of an option value. -/
def toIso (t : DateTime) : String := String.ofList (t.fullChars 'T')

/-- The text with a space in place of `T`. -/
def toSpaced (t : DateTime) : String := String.ofList (t.fullChars ' ')

end DateTime

end LinkedDocs.Calendar
