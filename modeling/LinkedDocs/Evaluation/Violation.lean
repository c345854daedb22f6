import LinkedDocs.Record.Kind
import LinkedDocs.Value.Decode

/-!
# Violations

A row that breaks a rule: the code of the rule, the file and id of the row, a
message and the number of the row in its file.
-/

namespace LinkedDocs.Evaluation

/-- A broken rule and where it is broken. -/
structure Violation where
  code : String
  path : String
  message : String
  rowIndex : Option Nat
  deriving DecidableEq, Repr

namespace Violation

/-- The name of the type in faults. -/
def typeName : String := "struct Violation"

/-- The violation as a value; an absent row number is left out. -/
def toValue (v : Violation) : Value :=
  .object ([("code", .string v.code), ("path", .string v.path), ("message", .string v.message)]
    ++ match v.rowIndex with
      | some n => [("row_index", .ofNat n)]
      | none => [])

/-- How each field reads. -/
def checks : Value.Checks :=
  [("code", Value.check Value.asString), ("path", Value.check Value.asString),
    ("message", Value.check Value.asString),
    ("row_index", Value.check (Value.orNull Value.asNat64))]

/-- Reads a violation from an object or from an array in the order of the fields. -/
def ofValue : Value → Value.Decoded Violation
  | .object fields => do
    Value.firstFault checks fields
    let code ← Value.required Value.asString fields "code"
    let path ← Value.required Value.asString fields "path"
    let message ← Value.required Value.asString fields "message"
    let rowIndex ← Value.optional (Value.orNull Value.asNat64) fields "row_index" none
    return { code, path, message, rowIndex }
  | .array items => do
    let whole := typeName ++ " with 4 elements"
    let code ← Value.item Value.asString items 0 whole
    let path ← Value.item Value.asString items 1 whole
    let message ← Value.item Value.asString items 2 whole
    let rowIndex ← Value.item (Value.orNull Value.asNat64) items 3 whole
    Value.endOfItems items 4
    return { code, path, message, rowIndex }
  | v => .error (.wrongType v typeName)

end Violation

/-- A rule for main rows. -/
inductive MainRule where
  | id
  | duplicateId
  | date
  | deleted
  | nested
  | nestedValue
  | fieldLength
  | ignoreMeVocabulary
  | textArray
  deriving DecidableEq, Repr

/-- The code of a rule for main rows. -/
def MainRule.code : MainRule → String
  | id => "main.id"
  | duplicateId => "main.duplicate_id"
  | date => "main.date"
  | deleted => "main.deleted"
  | nested => "main.nested"
  | nestedValue => "main.nested_value"
  | fieldLength => "main.field_length"
  | ignoreMeVocabulary => "main.ignore_me_vocabulary"
  | textArray => "main.text_array"

/-- A rule for related rows. -/
inductive RelatedRule where
  | batchSize
  | id
  | duplicateId
  | fieldLength
  | ignoreMeVocabulary
  | orphan
  deriving DecidableEq, Repr

/-- The word for a rule for related rows. -/
def RelatedRule.word : RelatedRule → String
  | batchSize => "batch_size"
  | id => "id"
  | duplicateId => "duplicate_id"
  | fieldLength => "field_length"
  | ignoreMeVocabulary => "ignore_me_vocabulary"
  | orphan => "orphan"

/-- The code of a rule for related rows of a kind. -/
def RelatedRule.code (kind : RelatedKind) (rule : RelatedRule) : String :=
  kind.label ++ "." ++ rule.word

end LinkedDocs.Evaluation
