import LinkedDocs.Json.Printer
import LinkedDocs.Record
import LinkedDocs.Value.Decode

/-!
# Documents as text

The columns of a document's row and its JSON form. The payload of a main
document becomes one column of compact JSON.
-/

namespace LinkedDocs

namespace Nested

/-- The payload as a value, with its fields in order. -/
def toValue (n : Nested) : Value :=
  .object [("key", .string n.key), ("value", .string n.value), ("name", .string n.name)]

/-- The text of the `nested` column. -/
def toJson (n : Nested) : String := Json.compact n.toValue

/-- The name of the type in faults. -/
def typeName : String := "struct Nested"

/-- How each field reads. -/
def checks : Value.Checks :=
  ["key", "value", "name"].map fun name => (name, Value.check Value.asString)

/-- Reads a payload from an object or from an array in the order of the fields. -/
def ofValue : Value → Value.Decoded Nested
  | .object fields => do
    Value.firstFault checks fields
    let key ← Value.required Value.asString fields "key"
    let value ← Value.required Value.asString fields "value"
    let name ← Value.required Value.asString fields "name"
    return { key, value, name }
  | .array items => do
    let whole := typeName ++ " with 3 elements"
    let key ← Value.item Value.asString items 0 whole
    let value ← Value.item Value.asString items 1 whole
    let name ← Value.item Value.asString items 2 whole
    Value.endOfItems items 3
    return { key, value, name }
  | v => .error (.wrongType v typeName)

end Nested

namespace MainRecord

/-- The text of the `deleted` column. -/
def deletedText (deleted : Bool) : String := if deleted then "true" else "false"

/-- The columns of a main document. -/
def row (r : MainRecord) : List String :=
  [r.id, r.date, deletedText r.deleted, r.nested.toJson, r.nonSearchable, r.text, r.textArray,
    r.ignoreMe]

/-- The document as a value; its payload is a string of JSON. -/
def toValue (r : MainRecord) : Value :=
  .object [("id", .string r.id), ("date", .string r.date), ("deleted", .bool r.deleted),
    ("nested", .string r.nested.toJson), ("non_searchable_field", .string r.nonSearchable),
    ("text", .string r.text), ("text_array", .string r.textArray),
    ("ignore_me", .string r.ignoreMe)]

end MainRecord

namespace RelatedRecord

/-- The columns of a related document. -/
def row (r : RelatedRecord) : List String := [r.id, r.parentId, r.value, r.ignoreMe]

end RelatedRecord

end LinkedDocs
