import LinkedDocs.Calendar.DateTime
import LinkedDocs.Lexicon
import LinkedDocs.Text.Decimal

/-!
# Sample values

Short structured values drawn at random: handles, company names, decimals with
two places, and date-times between two others.
-/

namespace LinkedDocs.Sample

open LinkedDocs.Random LinkedDocs.Random.Draw Calendar

variable {σ : Type} [WordStream σ]

/-- An ASCII character between two others, both included. -/
def character (low high : Char) : Draw σ Char := do
  let code ← within low.toNat high.toNat
  return Char.ofNat code

/-- Two to four capitals, one to five digits, a hyphen and the ending, as in `QXR4821-KEY`. -/
def handle (ending : String) : Draw σ String := do
  let letterCount ← within 2 4
  let digitCount ← within 1 5
  let letters ← times (character 'A' 'Z') letterCount
  let digits ← times (character '0' '9') digitCount
  return String.ofList (letters ++ digits) ++ "-" ++ ending

/-- A company name. -/
def companyName [Lexicon σ] : Draw σ String := Lexicon.companyName

/-- A number of hundredths as a decimal with two places. -/
def hundredths (n : Nat) : String :=
  Text.decimal (n / 100) ++ "." ++ String.ofList (Text.zeroPadded 2 (n % 100))

/-- A decimal with two places between `low` and `high` hundredths. -/
def decimal (low high : Nat) : Draw σ String := do
  let n ← within64 low high
  return hundredths n

/-- A date-time a whole number of seconds after `start`, at most at `finish`; `start` if none is. -/
def dateTimeBetween (start finish : DateTime) : Draw σ DateTime := do
  let span := start.secondsUntil finish
  if span ≤ 0 then
    return start
  else
    let offset ← within64 0 span.toNat
    match start.addSeconds? offset with
    | some t => return t
    | none => stop .dateOverflow

end LinkedDocs.Sample
