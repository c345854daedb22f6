import LinkedDocs.Calendar.DateTime
import LinkedDocs.Text.Blank
import LinkedDocs.Text.Decimal

/-!
# Reading date-times

A layout is a list of pieces that are read one after the other. Numbers may have
fewer digits than their width and blanks in front; a year of more than four
digits needs a sign. Each number is checked against its own range as soon as it
is read, and the date as a whole at the end.

* `rowLayout` is the layout of the `date` column; its space matches any blanks,
  also none.
* `isoLayout` is the layout of option values.
-/

namespace LinkedDocs.Calendar

open Text

/-- Why a text is not a date-time of the layout. -/
inductive ReadFault where
  /-- The text ends where more is needed. -/
  | tooShort
  /-- A character does not fit the layout. -/
  | invalid
  /-- A number lies outside its range, or the date does not exist. -/
  | outOfRange
  /-- Text is left over. -/
  | tooLong
  deriving DecidableEq, Repr

/-- The words for a fault. -/
def ReadFault.message : ReadFault → String
  | tooShort => "premature end of input"
  | invalid => "input contains invalid characters"
  | outOfRange => "input is out of range"
  | tooLong => "trailing input"

/-- A numeric part of a date-time. -/
inductive Part where
  | year
  | month
  | day
  | hour
  | minute
  | second
  deriving DecidableEq, Repr

/-- A piece of a layout. -/
inductive Piece where
  /-- A number for a part of the date-time. -/
  | number (part : Part)
  /-- This very character. -/
  | literal (c : Char)
  /-- Any run of blanks, also none. -/
  | blanks
  /-- A period and digits, or nothing; digits beyond the ninth are dropped. -/
  | fraction
  deriving DecidableEq, Repr

/-- The parts read so far. -/
structure Parts where
  year : Int := 0
  month : Nat := 0
  day : Nat := 0
  hour : Nat := 0
  minute : Nat := 0
  second : Nat := 0
  nanos : Nat := 0
  deriving DecidableEq, Repr

namespace Parts

/-- Sets a part to an unsigned number within its range. -/
def setWithin (low high value : Nat) (parts : Parts) : Except ReadFault Parts :=
  if low ≤ value ∧ value ≤ high then .ok parts else .error .outOfRange

/-- Sets a part, if the number lies in its range. -/
def set (parts : Parts) (part : Part) (value : Int) : Except ReadFault Parts :=
  let n := value.toNat
  match part with
  | .year =>
    if Int32.minValue.toInt ≤ value ∧ value ≤ Int32.maxValue.toInt then
      .ok { parts with year := value }
    else
      .error .outOfRange
  | .month => { parts with month := n }.setWithin 1 12 n
  | .day => { parts with day := n }.setWithin 1 31 n
  | .hour => { parts with hour := n }.setWithin 0 23 n
  | .minute => { parts with minute := n }.setWithin 0 59 n
  | .second => { parts with second := n }.setWithin 0 60 n

/-- The date-time of all parts, if it exists. -/
def toDateTime (parts : Parts) : Except ReadFault DateTime :=
  match DateTime.ofFields? ⟨parts.year, parts.month, parts.day⟩ parts.hour parts.minute
      parts.second parts.nanos with
  | some t => .ok t
  | none => .error .outOfRange

end Parts

/-- The digits at the front of a text, at most `most` of them, and the rest. -/
def takeDigits (most : Nat) (text : List Char) : List Char × List Char :=
  let digits := (text.take most).takeWhile Char.isDigit
  (digits, text.drop digits.length)

/-- At least one and at most `most` digits, and the rest. -/
def readDigits (most : Nat) (text : List Char) : Except ReadFault (List Char × List Char) :=
  if text.isEmpty then .error .tooShort
  else
    let (digits, rest) := takeDigits most text
    if digits.isEmpty then .error .invalid else .ok (digits, rest)

/-- The greatest number of digits of an unsigned part. -/
def Part.width : Part → Nat
  | .year => 4
  | _ => 2

/-- The number of a part: for a year a sign lifts the limit on its digits. -/
def readNumber (part : Part) (text : List Char) : Except ReadFault (Int × List Char) :=
  match part, skipBlanks text with
  | .year, '-' :: rest => do
    let (digits, rest) ← readDigits rest.length rest
    return (-(digitsValue digits : Int), rest)
  | .year, '+' :: rest => do
    let (digits, rest) ← readDigits rest.length rest
    return (digitsValue digits, rest)
  | part, text => do
    let (digits, rest) ← readDigits part.width text
    return (digitsValue digits, rest)

/-- The nanoseconds of the digits of a fraction. -/
def nanosOfDigits (digits : List Char) : Nat :=
  digitsValue digits * Nat.pow 10 (9 - digits.length)

/-- Reads one piece. -/
def Piece.read (piece : Piece) (parts : Parts) (text : List Char) :
    Except ReadFault (Parts × List Char) :=
  match piece with
  | .number part => do
    let (value, rest) ← readNumber part text
    let parts ← parts.set part value
    return (parts, rest)
  | .literal c =>
    match text with
    | [] => .error .tooShort
    | d :: rest => if d = c then .ok (parts, rest) else .error .invalid
  | .blanks => .ok (parts, skipBlanks text)
  | .fraction =>
    match text with
    | '.' :: rest => do
      let (digits, rest) ← readDigits 9 rest
      return ({ parts with nanos := nanosOfDigits digits }, rest.dropWhile Char.isDigit)
    | _ => .ok (parts, text)

/-- Reads the pieces of a layout in order; nothing may be left over. -/
def readPieces : List Piece → Parts → List Char → Except ReadFault Parts
  | [], parts, [] => .ok parts
  | [], _, _ :: _ => .error .tooLong
  | piece :: pieces, parts, text => do
    let (parts, rest) ← piece.read parts text
    readPieces pieces parts rest

/-- The layout of the `date` column. -/
def rowLayout : List Piece :=
  [.number .year, .literal '-', .number .month, .literal '-', .number .day, .blanks,
    .number .hour, .literal ':', .number .minute, .literal ':', .number .second]

/-- The layout of option values. -/
def isoLayout : List Piece :=
  [.number .year, .blanks, .literal '-', .number .month, .blanks, .literal '-', .number .day,
    .blanks, .literal 'T', .number .hour, .blanks, .literal ':', .number .minute, .blanks,
    .literal ':', .number .second, .fraction, .blanks]

/-- Reads a date-time of a layout. -/
def DateTime.read (layout : List Piece) (text : String) : Except ReadFault DateTime := do
  let parts ← readPieces layout {} text.toList
  parts.toDateTime

end LinkedDocs.Calendar
