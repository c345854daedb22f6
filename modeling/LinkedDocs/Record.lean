import LinkedDocs.Record.Id

/-!
# Documents

A main document and the related documents that point at it, as they are
generated: typed where the dataset's file has text.
-/

namespace LinkedDocs

/-- The payload of the `nested` column. -/
structure Nested where
  key : String
  value : String
  name : String
  deriving DecidableEq, Repr

/-- A main document. -/
structure MainRecord where
  id : String
  date : String
  deleted : Bool
  nested : Nested
  nonSearchable : String
  text : String
  textArray : String
  ignoreMe : String
  deriving DecidableEq, Repr

/-- A document that points at a main document by its id. -/
structure RelatedRecord where
  id : String
  parentId : String
  value : String
  ignoreMe : String
  deriving DecidableEq, Repr

namespace MainRecord

/-- The column names of the main dataset. -/
def columns : List String :=
  ["id", "date", "deleted", "nested", "non_searchable_field", "text", "text_array", "ignore_me"]

/-- The greatest length of `non_searchable_field`. -/
def nonSearchableLimit : Nat := 100

/-- The greatest length of `text`. -/
def textLimit : Nat := 50

/-- The greatest length of `ignore_me`. -/
def ignoreMeLimit : Nat := 50

/-- The number of items of `text_array`. -/
def textArrayItems : Nat := 3

end MainRecord

namespace RelatedRecord

/-- The column names of the child and inline datasets. -/
def columns : List String := ["id", "parent_id", "value", "ignore_me"]

/-- The greatest length of `value`. -/
def valueLimit : Nat := 30

/-- The greatest length of `ignore_me`. -/
def ignoreMeLimit : Nat := 30

end RelatedRecord

end LinkedDocs
