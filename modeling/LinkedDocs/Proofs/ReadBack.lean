import LinkedDocs.Proofs.Accounting
import LinkedDocs.Proofs.Stored

/-!
# Documents are read back

Each document that is written is a row of its file, whatever its fields hold, and
the rows of a file are read in the order in which they were written, numbered
from 0. The calls of a writer may be in any order: each file keeps the order of
its own.

* `MainRow.ofRecord`, `RelatedRow.ofRecord`: the row that a document is read as.
* `holds_ofRecords`: what the three files of documents are read as.
* `Writer.writes_eq`: what any calls have written.
* `written_records_read_back`: from the creation of a writer to the rows read.
-/

namespace LinkedDocs.Dataset

/-! ## Rows of documents -/

/-- The row of a main document at a place of its file. -/
def MainRow.ofRecord (rowIndex : Nat) (r : MainRecord) : MainRow where
  rowIndex
  id := r.id
  date := r.date
  deleted := MainRecord.deletedText r.deleted
  nested := r.nested.toJson
  nonSearchable := r.nonSearchable
  text := r.text
  textArray := r.textArray
  ignoreMe := r.ignoreMe

/-- The row of a related document at a place of its file. -/
def RelatedRow.ofRecord (kind : RelatedKind) (rowIndex : Nat) (r : RelatedRecord) : RelatedRow :=
  ⟨kind, rowIndex, r.id, r.parentId, r.value, r.ignoreMe⟩

section

variable {α β : Type}

/-- The rows of documents, numbered from `next` on. -/
def rowsFrom (ofRecord : Nat → β → α) : Nat → List β → List α
  | _, [] => []
  | next, record :: records => ofRecord next record :: rowsFrom ofRecord (next + 1) records

variable {ofRecord : Nat → β → α}

theorem length_rowsFrom (next : Nat) (records : List β) :
    (rowsFrom ofRecord next records).length = records.length := by
  induction records generalizing next with
  | nil => rfl
  | cons record records ih => rw [rowsFrom, List.length_cons, ih, List.length_cons]

/-- Rows of further records are numbered on. -/
theorem rowsFrom_append (next : Nat) (records records' : List β) :
    rowsFrom ofRecord next (records ++ records') =
      rowsFrom ofRecord next records ++ rowsFrom ofRecord (next + records.length) records' := by
  induction records generalizing next with
  | nil => rfl
  | cons record records ih =>
    rw [List.cons_append, rowsFrom, ih, rowsFrom, List.cons_append, List.length_cons,
      Nat.add_right_comm, Nat.add_assoc]

/-- Records are read as rows from a number on, if each record is read as its row. -/
theorem numberedOnto_rowsFrom {make : Nat → List String → Except ReadError α}
    {fields : β → List String} (hmake : ∀ next b, make next (fields b) = .ok (ofRecord next b))
    (next : Nat) (records : List β) :
    numberedOnto make [] next ((records.map fields).map .ok) =
      (rowsFrom ofRecord next records).map .ok := by
  induction records generalizing next with
  | nil => rfl
  | cons record records ih =>
    rw [List.map_cons, List.map_cons, numberedOnto_good (hmake next record), ih]
    rfl

/-- The records of a file are read as its rows, if each record is read as its row. -/
theorem numbered_rowsFrom {make : Nat → List String → Except ReadError α}
    {fields : β → List String} (hmake : ∀ next b, make next (fields b) = .ok (ofRecord next b))
    (records : List β) :
    numbered make ((records.map fields).map .ok) = (rowsFrom ofRecord 0 records).map .ok :=
  numberedOnto_rowsFrom hmake 0 records

end

/-! ## The files of documents are read -/

/-- No file without a header row begins with a byte order mark: the first id in it does not. -/
structure Unmarked (headers : Bool) (mains : List MainRecord)
    (batches : RelatedKind → List RelatedRecord) : Prop where
  main : headers = false → ∀ r ∈ mains.head?, r.id.toList.head? ≠ some Csv.byteOrderMark
  related : headers = false → ∀ kind, ∀ r ∈ (batches kind).head?,
    r.id.toList.head? ≠ some Csv.byteOrderMark

section

variable {β : Type} {headers : Bool} {columns : List String} {fields : β → List String}
  {records : List β}

/-- A file of records has no mark in front if neither its names nor its first record has. -/
theorem head?_fileText_records
    (hnames : (Csv.row columns).toList.head? ≠ some Csv.byteOrderMark)
    (hfirst : headers = false →
      ∀ r ∈ records.head?, (Csv.row (fields r)).toList.head? ≠ some Csv.byteOrderMark) :
    (Csv.fileText headers columns (records.map fields)).toList.head? ≠ some Csv.byteOrderMark := by
  refine Csv.head?_fileText hnames fun hheaders row hrow => ?_
  rw [List.head?_map, Option.mem_def, Option.map_eq_some_iff] at hrow
  rcases hrow with ⟨r, hr, rfl⟩
  exact hfirst hheaders r hr

/-- A file of records of two or more fields, with no mark in front, is read as those records. -/
theorem rows_records (hcolumns : 2 ≤ columns.length)
    (hnames : (Csv.row columns).toList.head? ≠ some Csv.byteOrderMark)
    (hfields : ∀ r, 2 ≤ (fields r).length)
    (hfirst : headers = false →
      ∀ r ∈ records.head?, (Csv.row (fields r)).toList.head? ≠ some Csv.byteOrderMark) :
    Csv.rows headers (.file (Csv.fileText headers columns (records.map fields)).toByteArray) =
      (records.map fields).map .ok := by
  apply Csv.rows_fileText hcolumns
  · intro row hrow
    rcases List.mem_map.1 hrow with ⟨r, -, rfl⟩
    exact hfields r
  · exact head?_fileText_records hnames hfirst

end

/-- The three files of documents are read as the rows of the documents. -/
theorem holds_ofRecords {headers : Bool} {mains : List MainRecord}
    {batches : RelatedKind → List RelatedRecord} (h : Unmarked headers mains batches)
    (dir : String) :
    ((Contents.ofRecords headers mains batches).reader dir headers).Holds
      (rowsFrom MainRow.ofRecord 0 mains)
      (rowsFrom (RelatedRow.ofRecord .child) 0 (batches .child))
      (rowsFrom (RelatedRow.ofRecord .inline) 0 (batches .inline)) := by
  have hmain : Csv.rows headers (.file (Csv.fileText headers MainRecord.columns
      (mains.map MainRecord.row)).toByteArray) = (mains.map MainRecord.row).map .ok := by
    apply rows_records (by decide) (Csv.head?_row (by decide))
    · intro r
      show 2 ≤ 8
      decide
    · intro hheaders r hr
      exact Csv.head?_row (h.main hheaders r hr)
  have hbatch : ∀ kind, Csv.rows headers (.file (Csv.fileText headers RelatedRecord.columns
      ((batches kind).map RelatedRecord.row)).toByteArray) =
        ((batches kind).map RelatedRecord.row).map .ok := by
    intro kind
    apply rows_records (by decide) (Csv.head?_row (by decide))
    · intro r
      show 2 ≤ 4
      decide
    · intro hheaders r hr
      exact Csv.head?_row (h.related hheaders kind r hr)
  have hrelated : ∀ kind path, numbered (RelatedRow.ofFields kind path)
      (((batches kind).map RelatedRecord.row).map .ok) =
        (rowsFrom (RelatedRow.ofRecord kind) 0 (batches kind)).map .ok := by
    intro kind path
    apply numbered_rowsFrom
    intro next r
    rfl
  constructor
  · show numbered (MainRow.ofFields (Paths.inDir dir).main) (Csv.rows headers _) = _
    rw [Contents.ofRecords, hmain]
    apply numbered_rowsFrom
    intro next r
    rfl
  · show numbered _ (Csv.rows headers _) = _
    rw [Contents.ofRecords, hbatch .child]
    exact hrelated .child _
  · show numbered _ (Csv.rows headers _) = _
    rw [Contents.ofRecords, hbatch .inline]
    exact hrelated .inline _

/-! ## What is handed out of good files -/

namespace Reader

variable {r : Reader} {mains : List MainRow} {children inlines : List RelatedRow}

/-- The rows of a related file, asked for before any group, come in the order of the file. -/
theorem Holds.remaining (h : r.Holds mains children inlines) :
    ∃ r', r.remaining = (.ok (children ++ inlines), r') := by
  rcases exists_remaining h with ⟨left, r', hleft⟩
  rcases remaining_ok hleft with ⟨children', inlines', rfl, -, hc, hi, -⟩
  rw [h.child] at hc
  rw [h.inline] at hi
  rw [List.map_injective_iff.2 ok_injective hc, List.map_injective_iff.2 ok_injective hi]
  exact ⟨r', hleft⟩

/-- Group after group, the main rows come in order, and every related row comes once. -/
theorem ReadsAll.hands_rows {groups : List Group} {left : List RelatedRow}
    (hall : r.ReadsAll groups left) (hkinds : r.KindsAgree) (h : r.Holds mains children inlines) :
    groups.map Group.main = mains ∧
      (groups.flatMap (Group.handed .child) ++ left.filter (·.kind = .child)).Perm children ∧
      (groups.flatMap (Group.handed .inline) ++ left.filter (·.kind = .inline)).Perm inlines := by
  rcases hall.handsOut hkinds with ⟨r', hhands, hmain, hrest⟩
  have hmains := hhands.main
  rcases hhands.related .child with ⟨takenc, hc, hpermc⟩
  rcases hhands.related .inline with ⟨takeni, hi, hpermi⟩
  -- Nothing is left, so what was taken is the whole of each file.
  rw [h.main, hmain, List.append_nil] at hmains
  rw [hrest, List.append_nil] at hc hi
  have hchildren := List.map_injective_iff.2 ok_injective (h.child.symm.trans hc)
  have hinlines := List.map_injective_iff.2 ok_injective (h.inline.symm.trans hi)
  rw [hchildren, hinlines]
  exact ⟨(List.map_injective_iff.2 ok_injective hmains).symm, hpermc, hpermi⟩

end Reader

/-! ## Any calls of a writer -/

namespace Writer

/-- A call of a writer. -/
inductive Call where
  | main (record : MainRecord)
  | related (kind : RelatedKind) (record : RelatedRecord)
  deriving DecidableEq, Repr

namespace Call

/-- The writer after the call. -/
def apply (w : Writer) : Call → Writer
  | main record => w.writeMain record
  | related kind record => w.writeRelated kind record

/-- The main documents that calls write. -/
def mains : List Call → List MainRecord
  | [] => []
  | main record :: calls => record :: mains calls
  | related _ _ :: calls => mains calls

/-- The related documents of each kind that calls write. -/
def batches : List Call → RelatedKind → List RelatedRecord
  | [], _ => []
  | main _ :: calls, kind => batches calls kind
  | related kind' record :: calls, kind => only kind' [record] kind ++ batches calls kind

end Call

/-- The writer after calls, one after the other. -/
def writes (w : Writer) (calls : List Call) : Writer := calls.foldl Call.apply w

/-- Whatever the order of the calls, each file gets its own rows in that order. -/
theorem writes_eq (w : Writer) (calls : List Call) :
    w.writes calls = w.writeRows (Call.mains calls) (Call.batches calls) := by
  induction calls generalizing w with
  | nil => exact writeRows_nothing.symm
  | cons call calls ih =>
    show (call.apply w).writes calls = _
    rw [ih]
    cases call with
    | main record =>
      show (w.writeMain record).writeRows _ _ = _
      rw [writeMain_eq, writeRows_append]
      rfl
    | related kind record =>
      show (w.writeRelated kind record).writeRows _ _ = _
      rw [writeRelated_eq, writeRows_append]
      rfl

end Writer

open Writer (Call)

/--
Whatever documents are written to a writer, in whatever order of the calls: when
it is closed or given up, its directory holds three files of the sizes that are
told, and a reader with the same choice of header rows finds in each of them the
documents written to it, in the order of the calls and numbered from 0. They are
handed out group after group, or the related ones all at once. Without header
rows the first id of a file must not begin with a byte order mark.
-/
theorem written_records_read_back {dir : String} {headers : Bool} {t t' : FileTree} {w : Writer}
    (calls : List Call) (hcreate : Writer.create (Paths.inDir dir) headers t = (.ok w, t'))
    (hmark : Unmarked headers (Call.mains calls) (Call.batches calls)) :
    ∃ (c : Contents) (stored : FileTree) (r : Reader),
      (w.writes calls).finish t' = (.ok c.sizes, stored) ∧
      (w.writes calls).flush t' = (.ok (), stored) ∧ c.StoredIn dir stored ∧
      Reader.openDir dir headers stored = (.ok r, stored) ∧
      r.Holds (rowsFrom MainRow.ofRecord 0 (Call.mains calls))
        (rowsFrom (RelatedRow.ofRecord .child) 0 (Call.batches calls .child))
        (rowsFrom (RelatedRow.ofRecord .inline) 0 (Call.batches calls .inline)) ∧
      (∃ groups left, r.ReadsAll groups left ∧
        groups.map Group.main = rowsFrom MainRow.ofRecord 0 (Call.mains calls) ∧
        ∀ kind, (groups.flatMap (Group.handed kind) ++ left.filter (·.kind = kind)).Perm
          (rowsFrom (RelatedRow.ofRecord kind) 0 (Call.batches calls kind))) ∧
      ∃ r', r.remaining =
        (.ok (rowsFrom (RelatedRow.ofRecord .child) 0 (Call.batches calls .child) ++
          rowsFrom (RelatedRow.ofRecord .inline) 0 (Call.batches calls .inline)), r') := by
  rcases Writer.create_ok hcreate with ⟨hopened, hfresh⟩
  have hcontents := hfresh.contents_writeRows (Call.mains calls) (Call.batches calls)
  rw [← Writer.writes_eq] at hcontents
  have hwritten : (w.writes calls).Opened (Paths.inDir dir) t' := by
    rw [Writer.writes_eq]
    exact hopened.writeRows _ _
  rcases Writer.flush_stores hwritten with ⟨stored, hflush, hstored⟩
  have hfinish := Writer.finish_eq hflush
  rw [hcontents] at hfinish hstored
  have hholds := holds_ofRecords hmark dir
  have hkinds : ((Contents.ofRecords headers (Call.mains calls) (Call.batches calls)).reader dir
      headers).KindsAgree := @Reader.kindsAgree_reader ⟨.file _, .file _, .file _⟩ _ _
  rcases Reader.exists_readsAll hholds with ⟨groups, left, hall⟩
  rcases hall.hands_rows hkinds hholds with ⟨hmains, hchildren, hinlines⟩
  refine ⟨_, stored, _, hfinish, hflush, hstored, hstored.openDir headers, hholds,
    ⟨groups, left, hall, hmains, fun kind => ?_⟩, hholds.remaining⟩
  cases kind with
  | child => exact hchildren
  | inline => exact hinlines

/-- Commas, quotes, line breaks and marks in front, in calls of mixed order. -/
def oddCalls : List Call :=
  [.related .child ⟨"", "a,b", "\r\n", "\ufeff"⟩,
    .main ⟨"x\"y", "\n", true, ⟨"k\"", "\u00e9,", ""⟩, "", " ", "\ufeff", ","⟩,
    .related .inline ⟨"I", "", "", "\""⟩, .related .child ⟨"\ufeff", "", "", ""⟩]

/-- Quotes, line breaks, commas, byte order marks and empty texts are read back as they were. -/
theorem odd_texts_read_back :
    ∃ (w : Writer) (t' : FileTree),
      Writer.create (Paths.inDir "data") false (({} : FileTree).set ["data"] .dir) = (.ok w, t') ∧
      Unmarked false (Call.mains oddCalls) (Call.batches oddCalls) ∧
      ∃ (c : Contents) (stored : FileTree) (r : Reader),
        (w.writes oddCalls).finish t' = (.ok c.sizes, stored) ∧
        (w.writes oddCalls).flush t' = (.ok (), stored) ∧ c.StoredIn "data" stored ∧
        Reader.openDir "data" false stored = (.ok r, stored) ∧
        r.Holds
          [⟨0, "x\"y", "\n", "true",
            "\x7b\"key\":\"k\\\"\",\"value\":\"\u00e9,\",\"name\":\"\"\x7d",
            "", " ", "\ufeff", ","⟩]
          [⟨.child, 0, "", "a,b", "\r\n", "\ufeff"⟩, ⟨.child, 1, "\ufeff", "", "", ""⟩]
          [⟨.inline, 0, "I", "", "", "\""⟩] := by
  have hok : (Writer.create (Paths.inDir "data") false
      (({} : FileTree).set ["data"] .dir)).1.toOption.any (fun _ => true) = true := by
    decide +kernel
  rcases exists_ok_of_fst_any hok with ⟨w, t', hcreate, -⟩
  have hmark : Unmarked false (Call.mains oddCalls) (Call.batches oddCalls) := by
    constructor
    · intro _
      decide
    · intro _ kind
      cases kind <;> decide
  rcases written_records_read_back oddCalls hcreate hmark with
    ⟨c, stored, r, hfinish, hflush, hstored, hopen, hholds, -⟩
  exact ⟨w, t', hcreate, hmark, c, stored, r, hfinish, hflush, hstored, hopen, hholds⟩

end LinkedDocs.Dataset
