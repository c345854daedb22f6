import LinkedDocs.Calendar.Printer
import LinkedDocs.Prose
import LinkedDocs.Record
import LinkedDocs.Sample

/-!
# Generating documents

A main document is drawn field by field. A batch of related documents has its
length drawn when it is opened; its documents are drawn one at a time, as they
are asked for, and an open batch may be dropped at any point.

* `mainRecord`, `relatedRecord`: one document.
* `Batch.start`, `Batch.next?`: a batch and its next document; `none` once the
  length is reached, without a draw.
-/

namespace LinkedDocs.Generator

open LinkedDocs.Random LinkedDocs.Random.Draw Calendar

variable {σ : Type} [WordStream σ]

/-- The bounds of `nested.value` in hundredths: 10.00 to 99.00. -/
def nestedValueBounds : Nat × Nat := (1000, 9900)

/-- One document in this many is deleted. -/
def deletedOneIn : Nat := 100

/-- The ending of `nested.key`. -/
def keyEnding : String := "KEY"

/-- Sentences as an array literal: each in single quotes, commas between, braces around. -/
def arrayLiteral (items : List String) : String :=
  "\x7b'" ++ "','".intercalate items ++ "'\x7d"

/-- The payload of a main document. -/
def nested [Lexicon σ] : Draw σ Nested := do
  let key ← Sample.handle keyEnding
  let value ← Sample.decimal nestedValueBounds.1 nestedValueBounds.2
  let name ← Sample.companyName
  return { key, value, name }

/-- Main document `index`, dated between the start of the decade of `reference` and `reference`. -/
def mainRecord [Lexicon σ] (reference : DateTime) (index : Nat) : Draw σ MainRecord := do
  let date ← Sample.dateTimeBetween reference.decadeStart reference
  let roll ← within 1 deletedOneIn
  let nested ← nested
  let nonSearchable ← Prose.text MainRecord.nonSearchableLimit .lorem
  let text ← Prose.text MainRecord.textLimit .lorem
  let items ← Prose.sentences MainRecord.textArrayItems .lorem
  let ignoreMe ← Prose.text MainRecord.ignoreMeLimit (.custom Vocabulary.mainMarkers)
  return {
    id := DocId.main index
    date := date.toRow
    deleted := roll = deletedOneIn
    nested
    nonSearchable
    text
    textArray := arrayLiteral items
    ignoreMe }

/-- The related document at place `sequence` of the batch of main document `parent`. -/
def relatedRecord [Lexicon σ] (kind : RelatedKind) (parent sequence : Nat) :
    Draw σ RelatedRecord := do
  let value ← Prose.text RelatedRecord.valueLimit .lorem
  let ignoreMe ← Prose.text RelatedRecord.ignoreMeLimit (.custom Vocabulary.relatedMarkers)
  return {
    id := DocId.related kind parent sequence
    parentId := DocId.main parent
    value
    ignoreMe }

/-! ## Batches -/

/-- A batch of related documents: `taken` of its `length` documents are drawn. -/
structure Batch where
  kind : RelatedKind
  parent : Nat
  length : Nat
  taken : Nat := 0
  deriving DecidableEq, Repr

namespace Batch

/-- Opens the batch of main document `parent`; its length is drawn here and never again. -/
def start (kind : RelatedKind) (parent : Nat) : Draw σ Batch := do
  let length ← within kind.bounds.least kind.bounds.most
  return { kind, parent, length }

/-- The number of documents still to come. -/
def remaining (b : Batch) : Nat := b.length - b.taken

/-- The next document and the batch after it; `none` at the end. -/
def next? [Lexicon σ] (b : Batch) : Draw σ (Option (RelatedRecord × Batch)) :=
  if b.taken < b.length then do
    let record ← relatedRecord b.kind b.parent b.taken
    return some (record, { b with taken := b.taken + 1 })
  else
    return none

/-- Up to `n` further documents of the batch, and the batch after them. -/
def take [Lexicon σ] (b : Batch) (n : Nat) : Draw σ (List RelatedRecord × Batch) :=
  match n with
  | 0 => return ([], b)
  | n + 1 => do
    match ← b.next? with
    | none => return ([], b)
    | some (record, rest) =>
      let (records, rest) ← rest.take n
      return (record :: records, rest)

end Batch

/-- All documents of a freshly opened batch. -/
def relatedRecords [Lexicon σ] (kind : RelatedKind) (parent : Nat) :
    Draw σ (List RelatedRecord) := do
  let batch ← Batch.start kind parent
  let (records, _) ← batch.take batch.length
  return records

end LinkedDocs.Generator
