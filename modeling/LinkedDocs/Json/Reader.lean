import LinkedDocs.Text.Digit
import LinkedDocs.Value

/-!
# Reading JSON

The text is read from the left; the first fault ends the reading and is located
by line and column, counted in bytes. At most 127 arrays and objects may be open
at once. The fields of an object are kept in ascending order, and the last of
two fields with one key counts.

* `read`: the value of a text that holds one value and blanks around it.
* `Fault.message`, `Error.message`: the words for a fault and for its place.
-/

namespace LinkedDocs.Json

/-- What is wrong with a text. -/
inductive Fault where
  | endInArray
  | endInObject
  | endInString
  | endInValue
  | colonMissing
  | arraySeparatorMissing
  | objectSeparatorMissing
  | wordMissing
  | valueMissing
  | invalidEscape
  | invalidNumber
  | numberOutOfRange
  | controlCharacter
  | keyNotString
  | loneSurrogate
  | surrogateCut
  | trailingComma
  | trailingCharacters
  | tooDeep
  deriving DecidableEq, Repr

/-- The words for a fault. -/
def Fault.message : Fault → String
  | endInArray => "EOF while parsing a list"
  | endInObject => "EOF while parsing an object"
  | endInString => "EOF while parsing a string"
  | endInValue => "EOF while parsing a value"
  | colonMissing => "expected `:`"
  | arraySeparatorMissing => "expected `,` or `]`"
  | objectSeparatorMissing => "expected `,` or `\x7d`"
  | wordMissing => "expected ident"
  | valueMissing => "expected value"
  | invalidEscape => "invalid escape"
  | invalidNumber => "invalid number"
  | numberOutOfRange => "number out of range"
  | controlCharacter => "control character (\\u0000-\\u001F) found while parsing a string"
  | keyNotString => "key must be a string"
  | loneSurrogate => "lone leading surrogate in hex escape"
  | surrogateCut => "unexpected end of hex escape"
  | trailingComma => "trailing comma"
  | trailingCharacters => "trailing characters"
  | tooDeep => "recursion limit exceeded"

/-- A fault and the number of bytes after its place. -/
structure Stop where
  fault : Fault
  left : Nat
  deriving DecidableEq, Repr

/-- What is read, and the rest of the text. -/
abbrev Reading (α : Type) := Except Stop (α × List Char)

/-- The number of bytes of a text. -/
def bytesOf (text : List Char) : Nat := text.foldl (fun n c => n + c.utf8Size) 0

/-- Stops before the rest of the text. -/
def stopAt {α : Type} (fault : Fault) (rest : List Char) : Except Stop α :=
  .error ⟨fault, bytesOf rest⟩

/-- Stops one byte further, or at the end of the text. -/
def stopPast {α : Type} (fault : Fault) (rest : List Char) : Except Stop α :=
  .error ⟨fault, bytesOf rest - 1⟩

/-- The blanks of JSON. -/
def isSpace (c : Char) : Bool := c = ' ' || c = '\n' || c = '\t' || c = '\r'

/-- The text without the blanks at its front. -/
def skipSpace (text : List Char) : List Char := text.dropWhile isSpace

/-! ## Strings -/

/-- The value of four hexadecimal digits. -/
def hexValue4? (a b c d : Char) : Option Nat := do
  return ((← Text.hexValue? a) * 16 + (← Text.hexValue? b)) * 256 + (← Text.hexValue? c) * 16
    + (← Text.hexValue? d)

/-- Stops at four characters that are not four hexadecimal digits: after them, or at the end. -/
def stopHex {α : Type} (rest : List Char) : Except Stop α :=
  let left := bytesOf rest
  if left < 4 then .error ⟨.endInString, 0⟩ else .error ⟨.invalidEscape, left - 4⟩

/-- The character of a one-letter escape. -/
def shortEscape? : Char → Option Char
  | '"' => some '"'
  | '\\' => some '\\'
  | '/' => some '/'
  | 'b' => some '\x08'
  | 'f' => some '\x0c'
  | 'n' => some '\n'
  | 'r' => some '\r'
  | 't' => some '\t'
  | _ => none

/-- The rest of a string after its opening quote; `done` is what came before, the last first. -/
def stringRest (done : List Char) : List Char → Reading String
  | [] => stopAt .endInString []
  | '"' :: rest => .ok (String.ofList done.reverse, rest)
  | ['\\'] => stopAt .endInString []
  | '\\' :: 'u' :: rest =>
    match rest with
    | a :: b :: c :: d :: after =>
      match hexValue4? a b c d with
      | none => stopHex (a :: b :: c :: d :: after)
      | some unit =>
        if 0xdc00 ≤ unit ∧ unit ≤ 0xdfff then stopAt .loneSurrogate after
        else if 0xd800 ≤ unit ∧ unit ≤ 0xdbff then
          match after with
          | [] => stopAt .endInString []
          | ['\\'] => stopAt .endInString []
          | '\\' :: 'u' :: low =>
            match low with
            | e :: f :: g :: h :: after =>
              match hexValue4? e f g h with
              | none => stopHex (e :: f :: g :: h :: after)
              | some second =>
                if 0xdc00 ≤ second ∧ second ≤ 0xdfff then
                  let c := Char.ofNat ((unit - 0xd800) * 1024 + (second - 0xdc00) + 0x10000)
                  stringRest (c :: done) after
                else stopAt .loneSurrogate after
            | short => stopHex short
          | '\\' :: other => stopPast .surrogateCut other
          | other => stopPast .surrogateCut other
        else stringRest (Char.ofNat unit :: done) after
    | short => stopHex short
  | '\\' :: c :: rest =>
    match shortEscape? c with
    | some e => stringRest (e :: done) rest
    | none => stopPast .invalidEscape (c :: rest)
  | c :: rest =>
    if c.toNat < 0x20 then stopAt .controlCharacter rest else stringRest (c :: done) rest

/-! ## Numbers -/

/-- The greatest significand that is kept exactly. -/
def greatestSignificand : Nat := UInt64.size - 1

/-- The largest power of ten by which a significand is scaled at once. -/
def greatestPower : Nat := 308

/-- Scales a significand down by a power of ten, 308 places at a time, rounding each time. -/
def scaleDown : Nat → Magnitude → Nat → Magnitude
  | 0, x, _ => x
  | fuel + 1, x, places =>
    if places ≤ greatestPower then x.div (.powerOfTen places)
    else if x.isZero then x
    else scaleDown fuel (x.div (.powerOfTen greatestPower)) (places - greatestPower)

/-- `significand · 10 ^ exponent`, rounded; `none` if it is out of range. -/
def scaleFloat (significand : Nat) (exponent : Int) : Option Magnitude :=
  let x := Magnitude.ofNat significand
  if exponent < 0 then
    let places := exponent.natAbs
    some (scaleDown 8 x (min places (8 * greatestPower)))
  else if x.isZero then some x
  else if exponent.toNat ≤ greatestPower then
    match x.mul (.powerOfTen exponent.toNat) with
    | .infinite => none
    | y => some y
  else none

/-- The float of a significand and an exponent, or a fault before `rest`. -/
def floatValue (negative : Bool) (significand : Nat) (exponent : Int) (rest : List Char) :
    Reading Value :=
  match scaleFloat significand exponent with
  | some magnitude => .ok (.float ⟨negative, magnitude⟩, rest)
  | none => stopAt .numberOutOfRange rest

/-- The number fits no exact significand any more if `digit` is appended to `significand`. -/
def overflows (significand digit : Nat) : Bool := greatestSignificand < significand * 10 + digit

/-- The value of an ASCII digit. -/
def digit? (c : Char) : Option Nat := if c.isDigit then some (c.toNat - '0'.toNat) else none

/-- The greatest exponent that is told apart from a greater one. -/
def greatestExponent : Nat := Int32.maxValue.toNatClampNeg

/-- The digits of an exponent after the first; `none` stands for one that is too great. -/
def exponentDigits (value : Nat) : List Char → Option Nat × List Char
  | [] => (some value, [])
  | c :: rest =>
    match digit? c with
    | none => (some value, c :: rest)
    | some d =>
      if greatestExponent < value * 10 + d then (none, rest)
      else exponentDigits (value * 10 + d) rest

/-- An exponent after its letter. -/
def exponentRest (negative : Bool) (significand : Nat) (before : Int) (text : List Char) :
    Reading Value :=
  let (down, text) :=
    match text with
    | '+' :: rest => (false, rest)
    | '-' :: rest => (true, rest)
    | rest => (false, rest)
  match text with
  | [] => stopAt .endInValue []
  | c :: rest =>
    match digit? c with
    | none => stopPast .invalidNumber (c :: rest)
    | some d =>
      match exponentDigits d rest with
      | (some value, rest) =>
        floatValue negative significand (if down then before - value else before + value) rest
      | (none, rest) =>
        if significand ≠ 0 ∧ ¬ down then stopAt .numberOutOfRange rest
        else .ok (.float ⟨negative, .ofNat 0⟩, rest.dropWhile Char.isDigit)

/-- What follows the digits of a decimal: an exponent or nothing. -/
def decimalEnd (negative : Bool) (significand : Nat) (exponent : Int) : List Char → Reading Value
  | 'e' :: rest => exponentRest negative significand exponent rest
  | 'E' :: rest => exponentRest negative significand exponent rest
  | rest => floatValue negative significand exponent rest

/-- The digits after a period, `seen` of them read; those past an exact significand are dropped. -/
def decimalRest (negative : Bool) (significand : Nat) (before : Int) (seen : Nat) :
    List Char → Reading Value
  | [] =>
    if seen = 0 then stopPast .endInValue []
    else decimalEnd negative significand (before - seen) []
  | c :: rest =>
    match digit? c with
    | some d =>
      if overflows significand d then
        decimalEnd negative significand (before - seen) (rest.dropWhile Char.isDigit)
      else decimalRest negative (significand * 10 + d) before (seen + 1) rest
    | none =>
      if seen = 0 then stopPast .invalidNumber (c :: rest)
      else decimalEnd negative significand (before - seen) (c :: rest)

/-- The digits of an integer past an exact significand, `dropped` of them so far. -/
def longInteger (negative : Bool) (significand dropped : Nat) : List Char → Reading Value
  | '.' :: rest => decimalRest negative significand dropped 0 rest
  | 'e' :: rest => exponentRest negative significand dropped rest
  | 'E' :: rest => exponentRest negative significand dropped rest
  | c :: rest =>
    if c.isDigit then longInteger negative significand (dropped + 1) rest
    else floatValue negative significand dropped (c :: rest)
  | [] => floatValue negative significand dropped []

/-- An integer without fraction and exponent; below -2^63, and for -0, it is a float. -/
def integerValue (negative : Bool) (significand : Nat) : Value :=
  if negative then
    if significand = 0 ∨ -(significand : Int) < Int64.minValue.toInt then
      .float ⟨true, .ofNat significand⟩
    else .int (-significand)
  else .int significand

/-- What follows the digits of an integer. -/
def integerEnd (negative : Bool) (significand : Nat) : List Char → Reading Value
  | '.' :: rest => decimalRest negative significand 0 0 rest
  | 'e' :: rest => exponentRest negative significand 0 rest
  | 'E' :: rest => exponentRest negative significand 0 rest
  | rest => .ok (integerValue negative significand, rest)

/-- The digits of an integer after the first. -/
def integerRest (negative : Bool) (significand : Nat) : List Char → Reading Value
  | [] => integerEnd negative significand []
  | c :: rest =>
    match digit? c with
    | some d =>
      if overflows significand d then longInteger negative significand 0 (c :: rest)
      else integerRest negative (significand * 10 + d) rest
    | none => integerEnd negative significand (c :: rest)

/-- A number after its sign; there is no leading zero before another digit. -/
def number (negative : Bool) : List Char → Reading Value
  | [] => stopAt .endInValue []
  | '0' :: rest =>
    match rest with
    | c :: _ => if c.isDigit then stopPast .invalidNumber rest else integerEnd negative 0 rest
    | [] => integerEnd negative 0 []
  | c :: rest =>
    match digit? c with
    | some d => integerRest negative d rest
    | none => stopPast .invalidNumber (c :: rest)

/-! ## Values -/

/-- The rest of a fixed word. -/
def wordRest (value : Value) : List Char → List Char → Reading Value
  | [], text => .ok (value, text)
  | _ :: _, [] => stopAt .endInValue []
  | c :: word, d :: rest =>
    if d = c then wordRest value word rest else stopPast .wordMissing (d :: rest)

/-- The number of arrays and objects of which the last may not be opened. -/
def depthLimit : Nat := 128

mutual

/-- A value; `depth` more arrays and objects, less one, may be opened inside. -/
def value : Nat → Nat → List Char → Except Stop (Value × List Char)
  | 0, _, text => stopPast .tooDeep text
  | fuel + 1, depth, text =>
    match skipSpace text with
    | [] => stopPast .endInValue []
    | 'n' :: rest => wordRest .null ['u', 'l', 'l'] rest
    | 't' :: rest => wordRest (.bool true) ['r', 'u', 'e'] rest
    | 'f' :: rest => wordRest (.bool false) ['a', 'l', 's', 'e'] rest
    | '-' :: rest => number true rest
    | '"' :: rest => do
      let (text, rest) ← stringRest [] rest
      return (.string text, rest)
    | '[' :: rest =>
      if depth ≤ 1 then stopPast .tooDeep ('[' :: rest)
      else
        match skipSpace rest with
        | [] => stopPast .endInArray []
        | ']' :: rest => .ok (.array [], rest)
        | rest => items fuel (depth - 1) [] rest
    | '\x7b' :: rest =>
      if depth ≤ 1 then stopPast .tooDeep ('\x7b' :: rest)
      else
        match skipSpace rest with
        | [] => stopPast .endInObject []
        | '\x7d' :: rest => .ok (.object [], rest)
        | '"' :: rest => fields fuel (depth - 1) [] rest
        | other => stopPast .keyNotString other
    | c :: rest =>
      if c.isDigit then number false (c :: rest) else stopPast .valueMissing (c :: rest)

/-- The items of an array from the next one on; `done` holds those before it, the last first. -/
def items : Nat → Nat → List Value → List Char → Except Stop (Value × List Char)
  | 0, _, _, text => stopPast .tooDeep text
  | fuel + 1, depth, done, text => do
    let (item, rest) ← value fuel depth text
    match skipSpace rest with
    | [] => stopPast .endInArray []
    | ']' :: rest => return (.array (item :: done).reverse, rest)
    | ',' :: rest =>
      match skipSpace rest with
      | [] => stopPast .endInValue []
      | ']' :: rest => stopPast .trailingComma (']' :: rest)
      | rest => items fuel depth (item :: done) rest
    | other => stopPast .arraySeparatorMissing other

/-- The fields of an object from the next key on, whose opening quote is read. -/
def fields : Nat → Nat → List (String × Value) → List Char → Except Stop (Value × List Char)
  | 0, _, _, text => stopPast .tooDeep text
  | fuel + 1, depth, done, text => do
    let (key, rest) ← stringRest [] text
    match skipSpace rest with
    | [] => stopPast .endInObject []
    | ':' :: rest =>
      let (item, rest) ← value fuel depth rest
      let done := Value.insertField key item done
      match skipSpace rest with
      | [] => stopPast .endInObject []
      | '\x7d' :: rest => return (.object done, rest)
      | ',' :: rest =>
        match skipSpace rest with
        | [] => stopPast .endInValue []
        | '"' :: rest => fields fuel depth done rest
        | '\x7d' :: rest => stopPast .trailingComma ('\x7d' :: rest)
        | other => stopPast .keyNotString other
      | other => stopPast .objectSeparatorMissing other
    | other => stopPast .colonMissing other

end

/-! ## Texts -/

/-- A fault and its place in a text. -/
structure Error where
  fault : Fault
  line : Nat
  column : Nat
  deriving DecidableEq, Repr

/-- The words for a fault and its place. -/
def Error.message (e : Error) : String :=
  e.fault.message ++ " at line " ++ Text.decimal e.line ++ " column " ++ Text.decimal e.column

/-- The place after the given bytes: lines from 1, columns from 0. -/
def placeAfter (bytes : List UInt8) : Nat × Nat :=
  (1 + bytes.count 10, (bytes.reverse.takeWhile (· ≠ 10)).length)

/-- Locates a fault in its text. -/
def Stop.locate (text : String) (stop : Stop) : Error :=
  let bytes := text.toByteArray.data.toList
  let (line, column) := placeAfter (bytes.take (bytes.length - stop.left))
  ⟨stop.fault, line, column⟩

/-- Reads one value with blanks around it and nothing else. -/
def readChars (text : List Char) : Except Stop Value := do
  let (result, rest) ← value (2 * text.length + 2) depthLimit text
  match skipSpace rest with
  | [] => return result
  | other => stopPast .trailingCharacters other

/-- Reads a text that holds one value. -/
def read (text : String) : Except Error Value :=
  match readChars text.toList with
  | .ok result => .ok result
  | .error stop => .error (stop.locate text)

end LinkedDocs.Json
