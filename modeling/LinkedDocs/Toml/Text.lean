import LinkedDocs.Text.Digit

/-!
# Text of TOML documents

Blanks, comments, strings and keys. A string is basic, with escapes, or literal;
either kind may run over several lines between three quotes, and may then hold
up to two quotes in a row, also right before its end.
-/

namespace LinkedDocs.Toml

/-- What is read, and the rest of the text; none if the text does not fit. -/
abbrev Reading (α : Type) := Option (α × List Char)

/-- A blank inside a line. -/
def isSpace (c : Char) : Bool := c = ' ' || c = '\t'

/-- The text without the blanks at its front. -/
def skipSpace (text : List Char) : List Char := text.dropWhile isSpace

/-- The character may stand in a comment and inside quotes: no control character but the tab. -/
def isTextChar (c : Char) : Bool := c = '\t' || (0x20 ≤ c.toNat && c.toNat ≠ 0x7f)

/-- The text after a line break. -/
def afterBreak? : List Char → Option (List Char)
  | '\n' :: rest => some rest
  | '\r' :: '\n' :: rest => some rest
  | _ => none

/-- The text after the end of a line, which may hold blanks and a comment. -/
def afterLine? (text : List Char) : Option (List Char) :=
  let rest := match skipSpace text with
    | '#' :: rest => rest.dropWhile isTextChar
    | rest => rest
  if rest.isEmpty then some [] else afterBreak? rest

/-- The text without the blanks, comments and line breaks at its front. -/
def skipLines (inComment : Bool) : List Char → List Char
  | [] => []
  | '\r' :: '\n' :: rest => skipLines false rest
  | '\n' :: rest => skipLines false rest
  | c :: rest =>
    if inComment then if isTextChar c then skipLines true rest else c :: rest
    else if isSpace c then skipLines false rest
    else if c = '#' then skipLines true rest
    else c :: rest

/-! ## Strings -/

/-- The character of a one-letter escape. -/
def shortEscape? : Char → Option Char
  | '"' => some '"'
  | '\\' => some '\\'
  | 'b' => some '\x08'
  | 'f' => some '\x0c'
  | 'n' => some '\n'
  | 'r' => some '\r'
  | 't' => some '\t'
  | _ => none

/-- The character whose number the hexadecimal digits give. -/
def scalar? (digits : List Char) : Option Char := do
  let values ← digits.mapM Text.hexValue?
  let n := values.foldl (fun n d => 16 * n + d) 0
  if n < 0xd800 ∨ 0xdfff < n ∧ n < 0x110000 then return Char.ofNat n else none

/-- The rest of a basic string after its opening quote; `done` is what came before, reversed. -/
def basicRest (done : List Char) : List Char → Reading String
  | [] => none
  | '"' :: rest => some (String.ofList done.reverse, rest)
  | '\\' :: 'u' :: a :: b :: c :: d :: rest =>
    (scalar? [a, b, c, d]).bind fun x => basicRest (x :: done) rest
  | '\\' :: 'U' :: a :: b :: c :: d :: e :: f :: g :: h :: rest =>
    (scalar? [a, b, c, d, e, f, g, h]).bind fun x => basicRest (x :: done) rest
  | '\\' :: c :: rest => (shortEscape? c).bind fun x => basicRest (x :: done) rest
  | c :: rest => if isTextChar c && c ≠ '\\' then basicRest (c :: done) rest else none

/--
The rest of a basic string of several lines; `skipping` drops the blanks and line
breaks that follow a backslash at the end of a line.
-/
def basicBlockRest (skipping : Bool) (done : List Char) : List Char → Reading String
  | [] => none
  | '"' :: '"' :: '"' :: '"' :: '"' :: rest =>
    some (String.ofList ('"' :: '"' :: done).reverse, rest)
  | '"' :: '"' :: '"' :: '"' :: rest => some (String.ofList ('"' :: done).reverse, rest)
  | '"' :: '"' :: '"' :: rest => some (String.ofList done.reverse, rest)
  | '\\' :: 'u' :: a :: b :: c :: d :: rest =>
    (scalar? [a, b, c, d]).bind fun x => basicBlockRest false (x :: done) rest
  | '\\' :: 'U' :: a :: b :: c :: d :: e :: f :: g :: h :: rest =>
    (scalar? [a, b, c, d, e, f, g, h]).bind fun x => basicBlockRest false (x :: done) rest
  | '\\' :: c :: rest =>
    if (afterBreak? (skipSpace (c :: rest))).isSome then basicBlockRest true done rest
    else (shortEscape? c).bind fun x => basicBlockRest false (x :: done) rest
  | '\r' :: '\n' :: rest => basicBlockRest skipping (if skipping then done else '\n' :: done) rest
  | '\n' :: rest => basicBlockRest skipping (if skipping then done else '\n' :: done) rest
  | c :: rest =>
    if skipping && isSpace c then basicBlockRest true done rest
    else if isTextChar c && c ≠ '\\' then basicBlockRest false (c :: done) rest
    else none

/-- The rest of a literal string after its opening quote. -/
def literalRest (done : List Char) : List Char → Reading String
  | [] => none
  | '\'' :: rest => some (String.ofList done.reverse, rest)
  | c :: rest => if isTextChar c then literalRest (c :: done) rest else none

/-- The rest of a literal string of several lines. -/
def literalBlockRest (done : List Char) : List Char → Reading String
  | [] => none
  | '\'' :: '\'' :: '\'' :: '\'' :: '\'' :: rest =>
    some (String.ofList ('\'' :: '\'' :: done).reverse, rest)
  | '\'' :: '\'' :: '\'' :: '\'' :: rest => some (String.ofList ('\'' :: done).reverse, rest)
  | '\'' :: '\'' :: '\'' :: rest => some (String.ofList done.reverse, rest)
  | '\r' :: '\n' :: rest => literalBlockRest ('\n' :: done) rest
  | '\n' :: rest => literalBlockRest ('\n' :: done) rest
  | c :: rest => if isTextChar c then literalBlockRest (c :: done) rest else none

/-- The text of several lines without a line break at its very start. -/
def skipFirstBreak (text : List Char) : List Char := (afterBreak? text).getD text

/-- A string of any kind. -/
def string? : List Char → Reading String
  | '"' :: '"' :: '"' :: rest => basicBlockRest false [] (skipFirstBreak rest)
  | '"' :: rest => basicRest [] rest
  | '\'' :: '\'' :: '\'' :: rest => literalBlockRest [] (skipFirstBreak rest)
  | '\'' :: rest => literalRest [] rest
  | _ => none

/-! ## Keys -/

/-- A character of a key without quotes. -/
def isKeyChar (c : Char) : Bool := c.isAlphanum || c = '-' || c = '_'

/-- One key. -/
def simpleKey? : List Char → Reading String
  | '"' :: rest => basicRest [] rest
  | '\'' :: rest => literalRest [] rest
  | text =>
    let key := text.takeWhile isKeyChar
    if key.isEmpty then none else some (String.ofList key, text.drop key.length)

/-- Up to `most` keys with periods between, and the blanks around them. -/
def keyPath? (most : Nat) (text : List Char) : Option (List String × List Char) :=
  match most with
  | 0 => none
  | most + 1 => do
    let (key, rest) ← simpleKey? (skipSpace text)
    match skipSpace rest with
    | '.' :: rest =>
      let (keys, rest) ← keyPath? most rest
      return (key :: keys, rest)
    | rest => return ([key], rest)

end LinkedDocs.Toml
