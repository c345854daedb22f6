import LinkedDocs.Calendar.Reader
import LinkedDocs.Dataset.Row
import LinkedDocs.Evaluation.Violation
import LinkedDocs.Json.Reader
import LinkedDocs.Text.Blank
import LinkedDocs.Text.Digit
import LinkedDocs.Vocabulary

/-!
# The rules for rows

Each rule looks at one row and yields the violations of it, in order.

* `mainViolations`, `relatedViolations`: all that is wrong with a row.
* `sizeViolations`: the size of a batch.
* `orphanViolation`: a related row without a main row.
-/

namespace LinkedDocs.Evaluation

open Dataset

/-! ## Text -/

/-- Two texts are equal but for the case of ASCII letters. -/
def sameLetters (a b : List Char) : Bool := a.map Char.toLower = b.map Char.toLower

/-- A word without the periods at its end. -/
def bareWord (word : List Char) : List Char := (word.reverse.dropWhile (· = '.')).reverse

/-- Every word of the text is one of the vocabulary, in any case and with any periods behind. -/
def inVocabulary (text : String) (vocabulary : List String) : Bool :=
  (Text.wordsOf text.toList).all fun word =>
    vocabulary.any fun known => sameLetters known.toList (bareWord word)

/-- The items of an array literal between its braces, from the item that begins with `done` on. -/
def splitItems (done : List Char) : List Char → List (List Char)
  | '\'' :: ',' :: '\'' :: rest => done.reverse :: splitItems [] rest
  | c :: rest => splitItems (c :: done) rest
  | [] => [done.reverse]

/-- The items of an array literal such as `arrayLiteral` writes. -/
def literalItems? (text : List Char) : Option (List (List Char)) :=
  match text with
  | '\x7b' :: '\'' :: rest =>
    match rest.reverse with
    | '\x7d' :: '\'' :: inner => some (splitItems [] inner.reverse)
    | _ => none
  | _ => none

/-! ## The nested column -/

/-- The keys of the payload. -/
def nestedKeys : List String := ["key", "value", "name"]

/-- The keys of the payload as a reader of JSON keeps them, in ascending order. -/
def sortedNestedKeys : List String := ["key", "name", "value"]

/-- The form of `nested.value`. -/
def valuePattern : String := "^\\d\x7b2\x7d\\.\\d\x7b2\x7d$"

/-- The bounds of `nested.value`. -/
def valueBounds : Nat × Nat := (5, 99)

/-- The text has the form of `nested.value`: two digits of any script, a period, two digits. -/
def matchesPattern : List Char → Bool
  | [a, b, '.', c, d] => [a, b, c, d].all Text.isDecimalDigit
  | _ => false

/-- The double-precision number that a value of the right form denotes, if its digits are ASCII. -/
def number? : List Char → Option Magnitude
  | [a, b, '.', c, d] =>
    (Text.natBelow? 10000 [a, b, c, d]).map fun hundredths => .ofScientific hundredths (-2)
  | _ => none

/-- The number lies between the bounds, both included. -/
def withinBounds (x : Magnitude) : Bool :=
  (Magnitude.ofNat valueBounds.1).atMost x && x.atMost (.ofNat valueBounds.2)

/-- What is wrong with `nested.value`. -/
def valueFault? (text : String) : Option String :=
  if !matchesPattern text.toList then
    some ("value " ++ Text.quoted text ++ " does not match " ++ valuePattern)
  else
    match number? text.toList with
    | none => some ("value " ++ Text.quoted text ++ " is not numeric")
    | some x =>
      if withinBounds x then none
      else
        some ("value " ++ x.positional .even ++ " outside [" ++ Text.decimal valueBounds.1 ++ ", "
          ++ Text.decimal valueBounds.2 ++ "]")

/-- The fields of the payload, or why there are none. -/
def nestedFields (text : String) : Except String (List (String × Value)) :=
  match Json.read text with
  | .error e => .error ("nested is not valid JSON: " ++ e.message)
  | .ok (.object fields) => .ok fields
  | .ok _ => .error "nested is not a JSON object"

/-- What is wrong with the shape of the payload. -/
def shapeFault? (fields : List (String × Value)) : Option String :=
  let keys := fields.map (·.1)
  if keys ≠ sortedNestedKeys then
    some ("nested keys " ++ Text.quotedList keys ++ " differ from " ++ Text.quotedList nestedKeys)
  else
    (nestedKeys.find? fun key => ((Value.field? key fields).bind Value.string?).isNone).map
      fun key => "nested " ++ key ++ " is not a string"

/-- The first rule that the payload breaks, with the message. -/
def nestedFault? (text : String) : Option (MainRule × String) :=
  match nestedFields text with
  | .error message => some (.nested, message)
  | .ok fields =>
    match shapeFault? fields with
    | some message => some (.nested, message)
    | none =>
      let value := ((Value.field? "value" fields).bind Value.string?).getD ""
      (valueFault? value).map fun message => (.nestedValue, message)

/-! ## Main rows -/

/-- The layout of dates in messages. -/
def dateLayout : String := "%Y-%m-%d %H:%M:%S"

/-- The texts that the `deleted` column may hold, and what they mean. -/
def deletedFlag? : String → Option Bool
  | "true" => some true
  | "True" => some true
  | "false" => some false
  | "False" => some false
  | _ => none

/-- The columns of a given text that are longer than their limit, with a message each. -/
def lengthFaults (columns : List (String × String × Nat)) : List String :=
  columns.filterMap fun (column, text, limit) =>
    if limit < text.length then
      some (column ++ " has " ++ Text.decimal text.length ++ " characters, limit is "
        ++ Text.decimal limit)
    else none

/-- The message for an id that is not the expected one. -/
def idMessage (expected found : String) : String :=
  "expected id " ++ expected ++ ", found " ++ found

/-- The message for a second row with an id. -/
def repeatMessage (id : String) : String := "id " ++ id ++ " repeats"

/-- The message for words that do not belong to a vocabulary. -/
def vocabularyMessage (text : String) : String :=
  "ignore_me " ++ Text.quoted text ++ " uses words outside its vocabulary"

/-- The message, if the condition holds; it is not made otherwise. -/
@[macro_inline]
def messageIf (condition : Bool) (message : String) : List String :=
  if condition then [message] else []

/--
What is wrong with main row number `expected`, in order; `repeated` says that a
row before it has its id.
-/
def mainFaults (row : MainRow) (expected : Nat) (repeated : Bool) : List (MainRule × String) :=
  let expectedId := DocId.main expected
  let rule (r : MainRule) (messages : List String) := messages.map fun m => (r, m)
  rule .id (messageIf (row.id ≠ expectedId) (idMessage expectedId row.id))
    ++ rule .duplicateId (messageIf repeated (repeatMessage row.id))
    ++ rule .date (messageIf (Calendar.DateTime.read Calendar.rowLayout row.date).toOption.isNone
        ("date " ++ Text.quoted row.date ++ " is not a " ++ dateLayout ++ " timestamp"))
    ++ rule .deleted (messageIf (deletedFlag? row.deleted).isNone
        ("deleted " ++ Text.quoted row.deleted ++ " is not a boolean"))
    ++ (nestedFault? row.nested).toList
    ++ rule .fieldLength (lengthFaults
        [("non_searchable_field", row.nonSearchable, MainRecord.nonSearchableLimit),
          ("text", row.text, MainRecord.textLimit),
          ("ignore_me", row.ignoreMe, MainRecord.ignoreMeLimit)])
    ++ rule .ignoreMeVocabulary
        (messageIf (!inVocabulary row.ignoreMe Vocabulary.mainMarkers.toList)
          (vocabularyMessage row.ignoreMe))
    ++ rule .textArray
        (messageIf ((literalItems? row.textArray.toList).map List.length
            ≠ some MainRecord.textArrayItems)
          ("text_array is not a " ++ Text.decimal MainRecord.textArrayItems
            ++ " item array literal"))

/-- The violations of main row number `expected`. -/
def mainViolations (row : MainRow) (expected : Nat) (repeated : Bool) : List Violation :=
  (mainFaults row expected repeated).map fun (rule, message) =>
    { code := rule.code, path := mainFileName ++ ":" ++ row.id, message,
      rowIndex := some row.rowIndex }

/-! ## Related rows -/

/-- What a 32-bit counter shows of a number. -/
def word32 (n : Nat) : Nat := n % UInt32.size

/-- The file of a kind and an id in it. -/
def relatedPath (kind : RelatedKind) (id : String) : String := kind.fileName ++ ":" ++ id

/-- The violation of a batch of `count` rows of a main row that may not have that many. -/
def sizeViolations (kind : RelatedKind) (main : MainRow) (count : Nat) : List Violation :=
  let size := word32 count
  if kind.bounds.holds size then []
  else
    [{ code := RelatedRule.batchSize.code kind
       path := relatedPath kind main.id
       message := main.id ++ " has " ++ Text.decimal size ++ " " ++ kind.label
         ++ " rows, expected " ++ Text.decimal kind.bounds.least ++ "..="
         ++ Text.decimal kind.bounds.most
       rowIndex := some main.rowIndex }]

/--
What is wrong with the row at place `sequence` of the batch of main document
`parent`, in order; `repeated` says that a row before it has its id.
-/
def relatedFaults (kind : RelatedKind) (parent sequence : Nat) (row : RelatedRow)
    (repeated : Bool) : List (RelatedRule × String) :=
  let expectedId := DocId.related kind parent (word32 sequence)
  let rule (r : RelatedRule) (messages : List String) := messages.map fun m => (r, m)
  rule .id (messageIf (row.id ≠ expectedId) (idMessage expectedId row.id))
    ++ rule .duplicateId (messageIf repeated (repeatMessage row.id))
    ++ rule .fieldLength (lengthFaults
        [("value", row.value, RelatedRecord.valueLimit),
          ("ignore_me", row.ignoreMe, RelatedRecord.ignoreMeLimit)])
    ++ rule .ignoreMeVocabulary
        (messageIf (!inVocabulary row.ignoreMe Vocabulary.relatedMarkers.toList)
          (vocabularyMessage row.ignoreMe))

/-- The violations of the row at place `sequence` of the batch of main document `parent`. -/
def relatedViolations (kind : RelatedKind) (parent sequence : Nat) (row : RelatedRow)
    (repeated : Bool) : List Violation :=
  (relatedFaults kind parent sequence row repeated).map fun (rule, message) =>
    { code := rule.code kind, path := relatedPath kind row.id, message,
      rowIndex := some row.rowIndex }

/-- The violation of a related row without a main row. -/
def orphanViolation (row : RelatedRow) : Violation where
  code := RelatedRule.orphan.code row.kind
  path := relatedPath row.kind row.id
  message := "parent " ++ row.parentId ++ " has no main row"
  rowIndex := some row.rowIndex

end LinkedDocs.Evaluation
