import LinkedDocs.Value

/-!
# JSON text

* `escape`: a quote, a backslash and the control characters below U+0020 are
  escaped; everything else stands for itself.
* `compact`: no space at all; `pretty`: two spaces a level, one field a line.
-/

namespace LinkedDocs.Json

/-- A hexadecimal digit in lower case. -/
def hexDigit (n : Nat) : Char := Nat.digitChar n

/-- The escape of a character inside a string. -/
def escapeChar (c : Char) : List Char :=
  match c with
  | '"' => ['\\', '"']
  | '\\' => ['\\', '\\']
  | '\x08' => ['\\', 'b']
  | '\x09' => ['\\', 't']
  | '\x0a' => ['\\', 'n']
  | '\x0c' => ['\\', 'f']
  | '\x0d' => ['\\', 'r']
  | c =>
    if c.toNat < 0x20 then ['\\', 'u', '0', '0', hexDigit (c.toNat / 16), hexDigit (c.toNat % 16)]
    else [c]

/-- The characters of a string with escapes. -/
def escape (text : List Char) : List Char := text.flatMap escapeChar

/-- A string in quotes. -/
def quote (text : String) : String := String.ofList ('"' :: escape text.toList ++ ['"'])

/-- A number, truth value or null. -/
def scalar : Value → String
  | .bool true => "true"
  | .bool false => "false"
  | .int n => Text.signedDecimal n
  | .float x =>
    match x.magnitude with
    | .finite .. => x.withPoint .even
    | _ => "null"
  | _ => "null"

mutual

/-- The shortest layout. -/
def compact : Value → String
  | .string s => quote s
  | .array items => "[" ++ ",".intercalate (compactItems items) ++ "]"
  | .object fields => "\x7b" ++ ",".intercalate (compactFields fields) ++ "\x7d"
  | value => scalar value

/-- The items of an array. -/
def compactItems : List Value → List String
  | [] => []
  | item :: rest => compact item :: compactItems rest

/-- The fields of an object. -/
def compactFields : List (String × Value) → List String
  | [] => []
  | (key, value) :: rest => (quote key ++ ":" ++ compact value) :: compactFields rest

end

/-- A line break and the indent of a level. -/
def lineBreak (level : Nat) : String := "\n" ++ String.ofList (List.replicate (2 * level) ' ')

mutual

/-- The layout with one field or item a line, inside `level` levels. -/
def prettyAt (level : Nat) : Value → String
  | .string s => quote s
  | .array [] => "[]"
  | .array (item :: rest) =>
    "[" ++ ",".intercalate (prettyItems (level + 1) (item :: rest)) ++ lineBreak level ++ "]"
  | .object [] => "\x7b\x7d"
  | .object (field :: rest) =>
    "\x7b" ++ ",".intercalate (prettyFields (level + 1) (field :: rest)) ++ lineBreak level
      ++ "\x7d"
  | value => scalar value

/-- The items of an array, each on its own line. -/
def prettyItems (level : Nat) : List Value → List String
  | [] => []
  | item :: rest => (lineBreak level ++ prettyAt level item) :: prettyItems level rest

/-- The fields of an object, each on its own line. -/
def prettyFields (level : Nat) : List (String × Value) → List String
  | [] => []
  | (key, value) :: rest =>
    (lineBreak level ++ quote key ++ ": " ++ prettyAt level value) :: prettyFields level rest

end

/-- The layout with one field or item a line. -/
def pretty (value : Value) : String := prettyAt 0 value

end LinkedDocs.Json
