/-!
# Date-times

The proleptic Gregorian calendar, years -262143 to 262142. A date is a day
number counted from 1 January of year 1; a date-time adds the second of the day
and a fraction in nanoseconds. A leap second is kept as second 59 of its minute
with a fraction of one second or more.

* `daysBeforeYear`, `yearOfDay`: the day number of a year's first day, and back.
* `DateTime.secondsUntil`: whole seconds from one date-time to another.
* `DateTime.addSeconds?`: fails only past the end of the calendar.
-/

namespace LinkedDocs.Calendar

/-! ## Years and days -/

/-- The first year of the calendar. -/
def firstYear : Int := -262143

/-- The last year of the calendar. -/
def lastYear : Int := 262142

/-- A year has a 29 February. -/
def isLeap (year : Int) : Bool :=
  year % 4 = 0 && (year % 100 ≠ 0 || year % 400 = 0)

/-- The number of days from 1 January of year 1 to 1 January of `year`. -/
def daysBeforeYear (year : Int) : Int :=
  365 * (year - 1) + (year - 1) / 4 - (year - 1) / 100 + (year - 1) / 400

/-- The year of a day: an estimate from the mean length of a year, off by at most one. -/
def yearOfDay (day : Int) : Int :=
  let guess := day * 400 / 146097 + 1
  if daysBeforeYear (guess + 1) ≤ day then guess + 1
  else if day < daysBeforeYear guess then guess - 1
  else guess

/-- The lengths of the months of a year. -/
def monthLengths (leap : Bool) : List Nat :=
  [31, if leap then 29 else 28, 31, 30, 31, 30, 31, 31, 30, 31, 30, 31]

/-- The number of days of a year before its month `month`. -/
def daysBeforeMonth (leap : Bool) (month : Nat) : Nat :=
  ((monthLengths leap).take (month - 1)).foldl (· + ·) 0

/-- The month and the day of the month of a day of the year (from 0), with the lengths given. -/
def monthAndDay : List Nat → Nat → Nat → Nat × Nat
  | [], month, rest => (month, rest + 1)
  | length :: lengths, month, rest =>
    if rest < length then (month, rest + 1) else monthAndDay lengths (month + 1) (rest - length)

/-- A date as it is written. -/
structure Date where
  year : Int
  month : Nat
  day : Nat
  deriving DecidableEq, Repr

namespace Date

/-- The date exists in the calendar. -/
def Exists (d : Date) : Prop :=
  firstYear ≤ d.year ∧ d.year ≤ lastYear ∧ 1 ≤ d.month ∧ d.month ≤ 12 ∧ 1 ≤ d.day
    ∧ d.day ≤ (monthLengths (isLeap d.year)).getD (d.month - 1) 0

instance (d : Date) : Decidable d.Exists :=
  inferInstanceAs (Decidable (_ ∧ _ ∧ _ ∧ _ ∧ _ ∧ _))

/-- The day number of a date. -/
def dayNumber (d : Date) : Int :=
  daysBeforeYear d.year + daysBeforeMonth (isLeap d.year) d.month + (d.day - 1 : Nat)

/-- The date of a day number. -/
def ofDayNumber (day : Int) : Date :=
  let year := yearOfDay day
  let (month, dayOfMonth) :=
    monthAndDay (monthLengths (isLeap year)) 1 (day - daysBeforeYear year).toNat
  ⟨year, month, dayOfMonth⟩

end Date

/-- The first day of the calendar. -/
def firstDay : Int := daysBeforeYear firstYear

/-- The last day of the calendar. -/
def lastDay : Int := daysBeforeYear (lastYear + 1) - 1

/-! ## Date-times -/

/-- The seconds of a day. -/
def secondsPerDay : Nat := 86400

/-- The nanoseconds of a second. -/
def nanosPerSecond : Nat := 1000000000

/-- A date-time, leap seconds included. -/
structure DateTime where
  day : Int
  second : Nat
  nanos : Nat
  day_mem : firstDay ≤ day ∧ day ≤ lastDay
  second_lt : second < secondsPerDay
  nanos_lt : nanos < 2 * nanosPerSecond
  leap_second : nanosPerSecond ≤ nanos → second % 60 = 59
  deriving DecidableEq, Repr

namespace DateTime

/-- The date-time of a day, a second and a fraction, if it exists. -/
def ofParts? (day : Int) (second nanos : Nat) : Option DateTime :=
  if h : (firstDay ≤ day ∧ day ≤ lastDay) ∧ second < secondsPerDay
      ∧ nanos < 2 * nanosPerSecond ∧ (nanosPerSecond ≤ nanos → second % 60 = 59) then
    some ⟨day, second, nanos, h.1, h.2.1, h.2.2.1, h.2.2.2⟩
  else
    none

/-- The date-time of a date and a time of day; second 60 is a leap second. -/
def ofFields? (date : Date) (hour minute second nanos : Nat) : Option DateTime :=
  if date.Exists ∧ hour < 24 ∧ minute < 60 ∧ second ≤ 60 then
    if second = 60 then
      ofParts? date.dayNumber (hour * 3600 + minute * 60 + 59) (nanos + nanosPerSecond)
    else
      ofParts? date.dayNumber (hour * 3600 + minute * 60 + second) nanos
  else
    none

/-- The date of a date-time. -/
def date (t : DateTime) : Date := Date.ofDayNumber t.day

/-- The time lies in a leap second. -/
def isLeapSecond (t : DateTime) : Bool := nanosPerSecond ≤ t.nanos

/-- Date-times are ordered by day, then second, then fraction. -/
instance : LE DateTime where
  le s t := s.day < t.day ∨ s.day = t.day ∧ (s.second < t.second ∨
    s.second = t.second ∧ s.nanos ≤ t.nanos)

instance (s t : DateTime) : Decidable (s ≤ t) :=
  inferInstanceAs (Decidable (_ ∨ _ ∧ (_ ∨ _ ∧ _)))

/--
The nanoseconds from `s` to `t`. A leap second that lies between the two times
of day, and is not the end of the span itself, counts as one second more.
-/
def nanosUntil (s t : DateTime) : Int :=
  let seconds : Int := (t.second : Int) - s.second
  let passed : Int :=
    if s.second < t.second ∧ s.isLeapSecond then 1
    else if t.second < s.second ∧ t.isLeapSecond then -1
    else 0
  ((t.day - s.day) * secondsPerDay + seconds + passed) * nanosPerSecond
    + ((t.nanos : Int) - s.nanos)

/-- The whole seconds from `s` to `t`, cut toward zero. -/
def secondsUntil (s t : DateTime) : Int := (nanosUntil s t).tdiv nanosPerSecond

/-- The date-time `n` seconds later; a leap second is left after its own second. -/
def addSeconds? (t : DateTime) (n : Nat) : Option DateTime :=
  if n = 0 then some t
  else
    let nanos := if t.isLeapSecond then t.nanos - nanosPerSecond else t.nanos
    let seconds := t.second + n
    ofParts? (t.day + (seconds / secondsPerDay : Nat)) (seconds % secondsPerDay) nanos

/-- Midnight on 1 January of the decade of `t`, or `t` if the calendar begins later. -/
def decadeStart (t : DateTime) : DateTime :=
  let year := t.date.year
  (ofParts? (daysBeforeYear (year - year % 10)) 0 0).getD t

end DateTime

end LinkedDocs.Calendar
