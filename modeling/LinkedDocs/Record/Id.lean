import LinkedDocs.Text.Decimal
import LinkedDocs.Record.Kind

/-!
# Document ids

A main id is `ID` and the index of the document in at least six digits; a
related id names its kind, the index of its parent and its place in the batch,
as in `CHILD000007:03`.

* `mainIndex?` reads an index back from `ID` and six or more ASCII digits; it
  refuses a value of 64 bits or more.
-/

namespace LinkedDocs.DocId

open Text

/-- The least number of digits of an index. -/
def indexWidth : Nat := 6

/-- The least number of digits of a place in a batch. -/
def sequenceWidth : Nat := 2

/-- The id of main document `index`. -/
def main (index : Nat) : String :=
  "ID" ++ String.ofList (zeroPadded indexWidth index)

/-- The id of the related document at place `sequence` of the batch of main document `parent`. -/
def related (kind : RelatedKind) (parent sequence : Nat) : String :=
  kind.idLetters ++ String.ofList (zeroPadded indexWidth parent) ++ ":"
    ++ String.ofList (zeroPadded sequenceWidth sequence)

/-- The index in the characters of a main id. -/
def mainIndexChars? : List Char → Option Nat
  | 'I' :: 'D' :: digits =>
    if digits.length < indexWidth then none else natBelow? word64 digits
  | _ => none

/-- The index of a main id; leading zeros beyond six digits are accepted. -/
def mainIndex? (id : String) : Option Nat := mainIndexChars? id.toList

end LinkedDocs.DocId
