import LinkedDocs.Proofs.Clean
import LinkedDocs.Proofs.Generated

/-!
# The wrong choice of header rows

A dataset that is read with the other choice of header rows than it was written
with is read without an error, as another dataset: either the column names are
its first rows, or its first rows are taken for column names. In both cases an
evaluation finds a violation, unless there was no row to lose.

* `rows_other_choice`: the rows that such a file is read as.
* `holds_other_choice`: the same for the three files of documents.
* `misread_reports`: something is wrong with the rows that are read.
* `wrong_header_flag_noticed`: from the run to its evaluation.
-/

namespace LinkedDocs

/-! ## One file -/

namespace Csv

variable {columns : List String} {rows : List (List String)}

/-- A header row in front of rows is one row more. -/
theorem fileText_names (columns columns' : List String) (rows : List (List String)) :
    fileText true columns rows = fileText false columns' (columns :: rows) := by
  unfold fileText
  rw [if_pos rfl, if_neg Bool.false_ne_true, String.empty_append, table_cons]

/-- Read with the other choice, the column names are a row, or the first row is lost. -/
theorem rows_other_choice {headers : Bool} (hcolumns : 2 ≤ columns.length)
    (hrows : ∀ fields ∈ rows, 2 ≤ fields.length)
    (hmark : (fileText headers columns rows).toList.head? ≠ some byteOrderMark) :
    Csv.rows (!headers) (.file (fileText headers columns rows).toByteArray) =
      (if headers then columns :: rows else rows.tail).map .ok := by
  cases headers with
  | true =>
    rw [fileText_names columns columns] at hmark ⊢
    exact rows_fileText hcolumns (List.forall_mem_cons.2 ⟨hcolumns, hrows⟩) hmark
  | false =>
    cases rows with
    | nil =>
      rw [fileText_nil]
      rfl
    | cons first rows =>
      rw [← fileText_names first columns] at hmark ⊢
      obtain ⟨hfirst, hrest⟩ := List.forall_mem_cons.1 hrows
      exact rows_fileText hfirst hrest hmark

end Csv

namespace Dataset

/-! ## The three files -/

/-- The row that the column names of a main file are read as. -/
def MainRow.ofNames : MainRow :=
  ⟨0, "id", "date", "deleted", "nested", "non_searchable_field", "text", "text_array", "ignore_me"⟩

/-- The row that the column names of a related file are read as. -/
def RelatedRow.ofNames (kind : RelatedKind) : RelatedRow :=
  ⟨kind, 0, "id", "parent_id", "value", "ignore_me"⟩

section

variable {α β : Type}

/-- The rows of records that are read with the other choice of header rows. -/
def misreadRows (names : α) (ofRecord : Nat → β → α) (headers : Bool) (records : List β) :
    List α :=
  if headers then names :: rowsFrom ofRecord 1 records else rowsFrom ofRecord 0 records.tail

/-- Read with the wrong flag, the names are a row more or the first record is missing. -/
theorem numbered_misreadRows {make : Nat → List String → Except ReadError α}
    {columns : List String} {fields : β → List String} {names : α} {ofRecord : Nat → β → α}
    (hnames : make 0 columns = .ok names)
    (hmake : ∀ next b, make next (fields b) = .ok (ofRecord next b)) (headers : Bool)
    (records : List β) :
    numbered make ((if headers then columns :: records.map fields
        else (records.map fields).tail).map .ok) =
      (misreadRows names ofRecord headers records).map .ok := by
  cases headers with
  | true =>
    show numberedOnto make [] 0 (.ok columns :: (records.map fields).map .ok) = _
    rw [numberedOnto_good hnames, numberedOnto_rowsFrom hmake]
    rfl
  | false =>
    rw [if_neg Bool.false_ne_true, ← List.map_tail]
    exact numbered_rowsFrom hmake records.tail

/-- A file of records, with no mark in front, is read as their misread rows. -/
theorem numbered_rows_other {make : Nat → List String → Except ReadError α}
    {columns : List String} {fields : β → List String} {names : α} {ofRecord : Nat → β → α}
    {headers : Bool} {records : List β} (hnames : make 0 columns = .ok names)
    (hmake : ∀ next b, make next (fields b) = .ok (ofRecord next b))
    (hcolumns : 2 ≤ columns.length) (hfields : ∀ r, 2 ≤ (fields r).length)
    (hmark : (Csv.fileText headers columns (records.map fields)).toList.head? ≠
      some Csv.byteOrderMark) :
    numbered make (Csv.rows (!headers)
        (.file (Csv.fileText headers columns (records.map fields)).toByteArray)) =
      (misreadRows names ofRecord headers records).map .ok := by
  have hwide : ∀ row ∈ records.map fields, 2 ≤ row.length := by
    intro row hrow
    rcases List.mem_map.1 hrow with ⟨r, -, rfl⟩
    exact hfields r
  rw [Csv.rows_other_choice hcolumns hwide hmark]
  exact numbered_misreadRows hnames hmake headers records

end

/-- The three files of documents, read with the other choice, hold the misread rows. -/
theorem holds_other_choice {headers : Bool} {mains : List MainRecord}
    {batches : RelatedKind → List RelatedRecord} (h : Unmarked headers mains batches)
    (dir : String) :
    ((Contents.ofRecords headers mains batches).reader dir (!headers)).Holds
      (misreadRows MainRow.ofNames MainRow.ofRecord headers mains)
      (misreadRows (RelatedRow.ofNames .child) (RelatedRow.ofRecord .child) headers
        (batches .child))
      (misreadRows (RelatedRow.ofNames .inline) (RelatedRow.ofRecord .inline) headers
        (batches .inline)) := by
  have hrelated : ∀ kind, numbered (RelatedRow.ofFields kind ((Paths.inDir dir).related kind))
      (Csv.rows (!headers) (.file (Csv.fileText headers RelatedRecord.columns
        ((batches kind).map RelatedRecord.row)).toByteArray)) =
      (misreadRows (RelatedRow.ofNames kind) (RelatedRow.ofRecord kind) headers
        (batches kind)).map .ok := by
    intro kind
    apply numbered_rows_other
    · rfl
    · intro next r
      rfl
    · decide
    · intro r
      show 2 ≤ 4
      decide
    · refine head?_fileText_records (Csv.head?_row (by decide)) fun hheaders r hr => ?_
      exact Csv.head?_row (h.related hheaders kind r hr)
  constructor
  · show numbered (MainRow.ofFields (Paths.inDir dir).main) (Csv.rows (!headers) _) = _
    apply numbered_rows_other
    · rfl
    · intro next r
      rfl
    · decide
    · intro r
      show 2 ≤ 8
      decide
    · refine head?_fileText_records (Csv.head?_row (by decide)) fun hheaders r hr => ?_
      exact Csv.head?_row (h.main hheaders r hr)
  · exact hrelated .child
  · exact hrelated .inline

end Dataset

namespace Generation

open Dataset Evaluation Calendar LinkedDocs.Random

/-! ## What is wrong with the rows -/

/-- Unless nothing was written, the misread rows of a run have something to report. -/
theorem misread_reports {headers : Bool} {docs : List Document} {r : Reader}
    {groups : List Group} {left : List RelatedRow} (hdocs : GoodFrom NumberedDocument 0 docs)
    (hr : r.Holds
      (misreadRows MainRow.ofNames MainRow.ofRecord headers (docs.map Document.main))
      (misreadRows (RelatedRow.ofNames .child) (RelatedRow.ofRecord .child) headers
        (docs.flatMap (Document.related · .child)))
      (misreadRows (RelatedRow.ofNames .inline) (RelatedRow.ofRecord .inline) headers
        (docs.flatMap (Document.related · .inline))))
    (hall : r.ReadsAll groups left) :
    violationsOf groups left = [] ↔ docs = [] ∧ headers = false := by
  constructor
  · intro hnil
    obtain ⟨hclean, -, hmains, hchildren, -⟩ := clean_of_violationsOf hall hr hnil
    cases headers with
    | true =>
      -- the column names are the first main row, and no id
      have hid : MainRow.ofNames.id = DocId.main 0 := hclean.first_id hmains
      exact absurd hid (by decide)
    | false =>
      refine ⟨?_, rfl⟩
      rcases docs with - | ⟨d, - | ⟨d', docs⟩⟩
      · rfl
      · -- the only main row is lost, and all its children but the first are left over
        obtain rfl : groups = [] := List.map_eq_nil_iff.1 hmains
        have hbatch := ((goodFrom_cons.1 hdocs).1.batch .child).size.1
        have hnone : rowsFrom (RelatedRow.ofRecord .child) 0 (d.related .child ++ []).tail = [] :=
          hchildren.symm
        have hlength := congrArg List.length hnone
        rw [length_rowsFrom, List.append_nil, List.length_tail, List.length_nil] at hlength
        have hleast : RelatedKind.child.bounds.least = 5 := rfl
        omega
      · -- the second main row stands in the place of the first
        obtain ⟨-, hdocs⟩ := goodFrom_cons.1 hdocs
        have hnext : d'.main.id = DocId.main (0 + 1) := (goodFrom_cons.1 hdocs).1.id_eq
        have hfirst : d'.main.id = DocId.main 0 := hclean.first_id hmains
        exact absurd (DocId.main_injective (hnext.symm.trans hfirst)) (by decide)
  · rintro ⟨rfl, rfl⟩
    obtain ⟨rfl, rfl⟩ := hall.of_empty hr
    rfl

/-! ## From a run to its evaluation -/

variable {σ : Type} [WordStream σ] [Lexicon σ]

/--
Whatever is drawn: if generation yields a report, then a lenient evaluation of
its directory with the other choice of header rows yields a result with at least
one violation, as long as the files are the same. Only three empty files, where
no header rows were written for no documents, have none.
-/
theorem wrong_header_flag_noticed {options : Options} {localTime : DateTime} {count : Nat}
    {source : Source σ} {session session' later : Session} {report : Report}
    {checks : Evaluation.Options}
    (hrun : runFrom options localTime count source session = (.ok report, session'))
    (hfiles : later.tree = session'.tree) (hheaders : checks.headers = !options.headers)
    (hlenient : checks.strict = false) :
    ∃ result later', Evaluation.run checks options.outDir later = (.ok result, later') ∧
      (result.violationCount = 0 ↔ count = 0 ∧ options.headers = false) := by
  obtain ⟨-, docs, left, hdraw, -, hstored⟩ := runFrom_stores hrun
  obtain ⟨hlength, hdocs⟩ :=
    yields_eachDocument (yields_numberedDocument _) _ _ _ _ _ hdraw
  have hholds := holds_other_choice (unmarked_numbered options.headers hdocs) options.outDir
  obtain ⟨groups, rows, hall⟩ := Reader.exists_readsAll hholds
  rw [← hfiles] at hstored
  have hopened := hstored.openDir checks.headers
  have hreads : ((filesOf options.headers docs).reader options.outDir checks.headers).ReadsAll
      groups rows := by
    rw [hheaders]
    exact hall
  have hstrict : checks.strict = true → violationsOf groups rows = [] := by
    intro hstrict
    rw [hlenient] at hstrict
    cases hstrict
  obtain ⟨later', hresult⟩ := run_reports.2 ⟨_, _, groups, rows, hopened, hreads, rfl, hstrict⟩
  refine ⟨_, later', hresult, ?_⟩
  show (violationsOf groups rows).length = 0 ↔ _
  rw [List.length_eq_zero_iff, misread_reports hdocs hholds hall, ← hlength,
    List.length_eq_zero_iff]

/-- A document without header rows, whose five children lose the first of them. -/
theorem lost_document_noticed :
    ∃ report session' result later',
      runFrom {} startOfDecade 1 (seededSource 42) { tree := {} } = (.ok report, session') ∧
      Evaluation.run { headers := true, strict := false } "data" session' =
        (.ok result, later') ∧ 0 < result.violationCount := by
  obtain ⟨docs, left, hdraw, -⟩ := exists_draw_of_42
  obtain ⟨session', hrun⟩ := @exists_runFrom _ _ _ {} startOfDecade 1 (seededSource 42) left
    { tree := {} } docs (ready_newTree false) hdraw
  obtain ⟨result, later', hresult, hiff⟩ := @wrong_header_flag_noticed _ _ _ {} startOfDecade 1
    (seededSource 42) { tree := {} } session' session' _ { headers := true, strict := false }
    hrun rfl rfl rfl
  refine ⟨_, session', result, later', hrun, hresult, ?_⟩
  apply Nat.pos_of_ne_zero
  intro hzero
  exact absurd (hiff.1 hzero).1 Nat.one_ne_zero

end Generation

end LinkedDocs
