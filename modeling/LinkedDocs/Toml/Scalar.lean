import LinkedDocs.Calendar.DateTime
import LinkedDocs.Toml.Text
import LinkedDocs.Value

/-!
# Scalars of TOML documents

Strings, truth values, integers of 64 bits with a sign, floats, and dates and
times. A date or time is kept as a table without fields: it is neither a number
nor a text to those who read the document.
-/

namespace LinkedDocs.Toml

/-! ## Numbers -/

/-- The digits after `done` (reversed), which may have single underscores between them. -/
def digitsRest (isDigit : Char → Bool) (done : List Char) : List Char → Reading (List Char)
  | [] => some (done.reverse, [])
  | ['_'] => none
  | '_' :: c :: rest => if isDigit c then digitsRest isDigit (c :: done) rest else none
  | c :: rest =>
    if isDigit c then digitsRest isDigit (c :: done) rest else some (done.reverse, c :: rest)

/-- One or more digits, which may have single underscores between them. -/
def digits? (isDigit : Char → Bool) : List Char → Reading (List Char)
  | c :: rest => if isDigit c then digitsRest isDigit [c] rest else none
  | [] => none

/-- The integer part of a number: no zero in front of other digits. -/
def integerDigits? : List Char → Reading (List Char)
  | '0' :: rest => some (['0'], rest)
  | text => digits? Char.isDigit text

/-- An integer, if it fits into 64 bits with its sign. -/
def integerValue? (n : Int) : Option Value :=
  if Int64.minValue.toInt ≤ n ∧ n ≤ Int64.maxValue.toInt then some (.int n) else none

/-- An integer whose digits have the given base. -/
def radixInteger? (base : Nat) (text : List Char) : Option (Value × List Char) := do
  let isDigit (c : Char) : Bool := ((Text.hexValue? c).getD base) < base
  let (digits, rest) ← digits? isDigit text
  let n := digits.foldl (fun n c => base * n + (Text.hexValue? c).getD 0) 0
  return (← integerValue? n, rest)

/-- The digits of a fraction, if there is one. -/
def fraction? : List Char → Reading (List Char)
  | '.' :: rest => digits? Char.isDigit rest
  | text => some ([], text)

/-- The digits of an exponent, with its sign. -/
def signedExponent? : List Char → Reading Int
  | '-' :: rest => (digits? Char.isDigit rest).map fun (digits, rest) =>
    (-(Text.digitsValue digits : Int), rest)
  | '+' :: rest => (digits? Char.isDigit rest).map fun (digits, rest) =>
    (Text.digitsValue digits, rest)
  | text => (digits? Char.isDigit text).map fun (digits, rest) => (Text.digitsValue digits, rest)

/-- An exponent, if there is one. -/
def exponent? : List Char → Reading (Option Int)
  | c :: rest =>
    if c = 'e' || c = 'E' then
      (signedExponent? rest).map fun (exponent, rest) => (some exponent, rest)
    else some (none, c :: rest)
  | [] => some (none, [])

/-- A decimal number without its sign; a positive float must not be infinite. -/
def decimalNumber? (negative : Bool) (text : List Char) : Option (Value × List Char) := do
  let (whole, rest) ← integerDigits? text
  let (part, rest) ← fraction? rest
  let (exponent, rest) ← exponent? rest
  if part.isEmpty && exponent.isNone then
    let n : Int := Text.digitsValue whole
    return (← integerValue? (if negative then -n else n), rest)
  else
    let size := Magnitude.ofScientific (Text.digitsValue (whole ++ part))
      (exponent.getD 0 - part.length)
    if size = .infinite && !negative then none
    else return (.float ⟨negative, size⟩, rest)

/-- A number with its sign read. -/
def unsigned? (negative : Bool) : List Char → Reading Value
  | 'i' :: 'n' :: 'f' :: rest => some (.float ⟨negative, .infinite⟩, rest)
  | 'n' :: 'a' :: 'n' :: rest => some (.float ⟨negative, .notANumber⟩, rest)
  | text => decimalNumber? negative text

/-- A number. -/
def number? : List Char → Reading Value
  | '+' :: rest => unsigned? false rest
  | '-' :: rest => unsigned? true rest
  | '0' :: 'x' :: rest => radixInteger? 16 rest
  | '0' :: 'o' :: rest => radixInteger? 8 rest
  | '0' :: 'b' :: rest => radixInteger? 2 rest
  | text => unsigned? false text

/-! ## Dates and times -/

/-- Exactly `count` digits with a value from `low` to `high`. -/
def field? (count low high : Nat) (text : List Char) : Reading Nat :=
  let digits := text.take count
  let n := Text.digitsValue digits
  if digits.length = count && digits.all Char.isDigit && low ≤ n && n ≤ high then
    some (n, text.drop count)
  else none

/-- The text after a character. -/
def after? (c : Char) : List Char → Option (List Char)
  | d :: rest => if d = c then some rest else none
  | [] => none

/-- The text after a date that exists. -/
def afterDate? (text : List Char) : Option (List Char) := do
  let (year, rest) ← field? 4 0 9999 text
  let (month, rest) ← field? 2 1 12 (← after? '-' rest)
  let days := (Calendar.monthLengths (Calendar.isLeap year)).getD (month - 1) 0
  let (_, rest) ← field? 2 1 days (← after? '-' rest)
  return rest

/-- The text after a fraction of a second, if there is one. -/
def skipFraction : List Char → List Char
  | '.' :: c :: rest => if c.isDigit then rest.dropWhile Char.isDigit else '.' :: c :: rest
  | text => text

/-- The text after a time of day. -/
def afterTime? (text : List Char) : Option (List Char) := do
  let (_, rest) ← field? 2 0 23 text
  let (_, rest) ← field? 2 0 59 (← after? ':' rest)
  let (_, rest) ← field? 2 0 60 (← after? ':' rest)
  return skipFraction rest

/-- The text after an offset from universal time. -/
def afterOffset? : List Char → Option (List Char)
  | 'Z' :: rest => some rest
  | 'z' :: rest => some rest
  | c :: rest =>
    if c = '+' || c = '-' then do
      let (_, rest) ← field? 2 0 23 rest
      let (_, rest) ← field? 2 0 59 (← after? ':' rest)
      return rest
    else none
  | [] => none

/-- The text after the time that may follow a date, and after its offset. -/
def afterDayTime? : List Char → Option (List Char)
  | c :: rest =>
    if c = 'T' || c = 't' || c = ' ' then do
      let rest ← afterTime? rest
      return (afterOffset? rest).getD rest
    else none
  | [] => none

/-- The text after a date, a time or both. -/
def afterMoment? (text : List Char) : Option (List Char) :=
  match afterDate? text with
  | some rest => some ((afterDayTime? rest).getD rest)
  | none => afterTime? text

/-! ## Scalars -/

/-- A scalar of any kind. -/
def scalarValue? : List Char → Reading Value
  | 't' :: 'r' :: 'u' :: 'e' :: rest => some (.bool true, rest)
  | 'f' :: 'a' :: 'l' :: 's' :: 'e' :: rest => some (.bool false, rest)
  | '"' :: rest => (string? ('"' :: rest)).map fun (s, rest) => (.string s, rest)
  | '\'' :: rest => (string? ('\'' :: rest)).map fun (s, rest) => (.string s, rest)
  | text =>
    match afterMoment? text with
    | some rest => some (.object [], rest)
    | none => number? text

end LinkedDocs.Toml
