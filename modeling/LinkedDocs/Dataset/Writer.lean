import LinkedDocs.Csv.Printer
import LinkedDocs.Dataset.Files
import LinkedDocs.FileTree
import LinkedDocs.Record.Encode

/-!
# Writing a dataset

A writer holds the text of the three files. Creating it empties the files;
closing it, or giving it up, puts the text into them.

* `create`: opens the main, the child and the inline file, in this order; if one
  fails, the header rows of those before it are written all the same.
* `writeMain`, `writeRelated`: one row more.
* `finish`: the number of bytes of each file.
-/

namespace LinkedDocs.Dataset

/-- A file that is being written: its place and its text so far. -/
structure Sink where
  place : Place
  text : String

namespace Sink

/-- Creates the file of a path, with a row of column names if asked for. -/
def create (path : String) (columns : List String) (headers : Bool) : FileWork Sink := do
  let place ← FileWork.createFile path
  return { place, text := if headers then Csv.row columns else "" }

/-- One row more. -/
def writeRow (s : Sink) (fields : List String) : Sink :=
  { s with text := s.text ++ Csv.row fields }

/-- Puts the text into the file. -/
def flush (s : Sink) : FileWork Unit := FileWork.fillFile s.place s.text

end Sink

/-- The three files of a dataset that is being written. -/
structure Writer where
  main : Sink
  child : Sink
  inline : Sink

namespace Writer

/-- The file of a kind. -/
def related (w : Writer) : RelatedKind → Sink
  | .child => w.child
  | .inline => w.inline

/-- Does work; if it fails, flushes a file that is open already. -/
def flushOnFault {α : Type} (opened : Sink) (work : FileWork α) : FileWork α :=
  tryCatch work fun fault => do
    opened.flush
    throw fault

/-- Creates the three files. -/
def create (paths : Paths) (headers : Bool) : FileWork Writer := do
  let main ← Sink.create paths.main MainRecord.columns headers
  flushOnFault main do
    let child ← Sink.create paths.child RelatedRecord.columns headers
    flushOnFault child do
      let inline ← Sink.create paths.inline RelatedRecord.columns headers
      return { main, child, inline }

/-- Writes the row of a main document. -/
def writeMain (w : Writer) (record : MainRecord) : Writer :=
  { w with main := w.main.writeRow record.row }

/-- Writes the row of a related document. -/
def writeRelated (w : Writer) (kind : RelatedKind) (record : RelatedRecord) : Writer :=
  match kind with
  | .child => { w with child := w.child.writeRow record.row }
  | .inline => { w with inline := w.inline.writeRow record.row }

/-- Puts the text into the files. -/
def flush (w : Writer) : FileWork Unit := do
  w.main.flush
  w.child.flush
  w.inline.flush

/-- The number of bytes of each file. -/
def sizes (w : Writer) : Sizes :=
  ⟨w.main.text.utf8ByteSize, w.child.text.utf8ByteSize, w.inline.text.utf8ByteSize⟩

/-- Puts the text into the files and tells their sizes. -/
def finish (w : Writer) : FileWork Sizes := do
  w.flush
  return w.sizes

end Writer

end LinkedDocs.Dataset
