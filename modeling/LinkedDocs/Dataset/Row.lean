import LinkedDocs.Csv.Reader
import LinkedDocs.Record

/-!
# Rows of a dataset

A row as it is read back: all text, numbered from 0 within its file. A row with
the wrong number of columns is refused, and takes no number.

* `MainRow.ofFields`, `RelatedRow.ofFields`: a row of the fields of a record.
* `numbered`: the rows of a file, good and bad, in order.
-/

namespace LinkedDocs.Dataset

/-- Why a dataset cannot be read on. -/
inductive ReadError where
  /-- A row has the wrong number of columns. -/
  | wrongWidth (path : String) (row expected found : Nat)
  /-- A file cannot be read, or holds bytes that are not text. -/
  | csv (fault : Csv.Fault)
  deriving DecidableEq, Repr

/-- A row of the main file. -/
structure MainRow where
  rowIndex : Nat
  id : String
  date : String
  deleted : String
  nested : String
  nonSearchable : String
  text : String
  textArray : String
  ignoreMe : String
  deriving DecidableEq, Repr

namespace MainRow

/-- The row of eight fields. -/
def ofFields (path : String) (rowIndex : Nat) : List String → Except ReadError MainRow
  | [id, date, deleted, nested, nonSearchable, text, textArray, ignoreMe] =>
    .ok ⟨rowIndex, id, date, deleted, nested, nonSearchable, text, textArray, ignoreMe⟩
  | fields => .error (.wrongWidth path rowIndex MainRecord.columns.length fields.length)

/-- The fields of the row. -/
def fields (r : MainRow) : List String :=
  [r.id, r.date, r.deleted, r.nested, r.nonSearchable, r.text, r.textArray, r.ignoreMe]

/-- The index that the row's id names. -/
def index? (r : MainRow) : Option Nat := DocId.mainIndex? r.id

end MainRow

/-- A row of the child or the inline file. -/
structure RelatedRow where
  kind : RelatedKind
  rowIndex : Nat
  id : String
  parentId : String
  value : String
  ignoreMe : String
  deriving DecidableEq, Repr

namespace RelatedRow

/-- The row of four fields. -/
def ofFields (kind : RelatedKind) (path : String) (rowIndex : Nat) :
    List String → Except ReadError RelatedRow
  | [id, parentId, value, ignoreMe] => .ok ⟨kind, rowIndex, id, parentId, value, ignoreMe⟩
  | fields => .error (.wrongWidth path rowIndex RelatedRecord.columns.length fields.length)

/-- The fields of the row. -/
def fields (r : RelatedRow) : List String := [r.id, r.parentId, r.value, r.ignoreMe]

/-- The index that the row's parent id names. -/
def parentIndex? (r : RelatedRow) : Option Nat := DocId.mainIndex? r.parentId

end RelatedRow

/-- The rows still to be read; a bad row is an error at its place. -/
abbrev Feed (α : Type) := List (Except ReadError α)

/--
Numbers the rows of a file from `next` on, behind those of `done`, which holds
the last first. Only good rows are counted.
-/
def numberedOnto {α : Type} (make : Nat → List String → Except ReadError α) (done : Feed α)
    (next : Nat) : List (Except Csv.Fault (List String)) → Feed α
  | [] => done.reverse
  | .error fault :: rest => numberedOnto make (.error (.csv fault) :: done) next rest
  | .ok fields :: rest =>
    match make next fields with
    | .ok row => numberedOnto make (.ok row :: done) (next + 1) rest
    | .error e => numberedOnto make (.error e :: done) next rest

/-- Numbers the rows of a file. -/
def numbered {α : Type} (make : Nat → List String → Except ReadError α)
    (rows : List (Except Csv.Fault (List String))) : Feed α :=
  numberedOnto make [] 0 rows

end LinkedDocs.Dataset
