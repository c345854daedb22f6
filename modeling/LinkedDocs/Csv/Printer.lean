/-!
# Writing CSV

A row is its fields with commas between and a line feed at the end. A field is
put in quotes if it holds a comma, a quote, a carriage return or a line feed; a
quote inside is written twice.
-/

namespace LinkedDocs.Csv

/-- The character makes a field need quotes. -/
def isSpecial (c : Char) : Bool := c = ',' || c = '"' || c = '\r' || c = '\n'

/-- The field is put in quotes. -/
def needsQuotes (field : List Char) : Bool := field.any isSpecial

/-- The characters of a field with every quote doubled. -/
def doubleQuotes (field : List Char) : List Char :=
  field.flatMap fun c => if c = '"' then ['"', '"'] else [c]

/-- A field as it is written. -/
def fieldChars (field : List Char) : List Char :=
  if needsQuotes field then '"' :: doubleQuotes field ++ ['"'] else field

/-- A field as it is written. -/
def field (text : String) : String :=
  if needsQuotes text.toList then String.ofList (fieldChars text.toList) else text

/-- A row as it is written. -/
def row (fields : List String) : String := ",".intercalate (fields.map field) ++ "\n"

end LinkedDocs.Csv
