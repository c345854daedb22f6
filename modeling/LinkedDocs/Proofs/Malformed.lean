import LinkedDocs.Proofs.Accounting
import LinkedDocs.Proofs.Stored
import Mathlib.Data.List.Nodup

/-!
# Malformed rows

A row with the wrong number of columns, or with bytes that are not text, stops
an evaluation wherever it stands. The rows of the three files are read in an
order that depends on their ids, but each file from its front, so the row that
is reported is the first malformed one of its file.

* `DataFile`: the path of a file, the width of its rows, and its records.
* `FirstFault`: the first bad row of a feed.
* `nextGroup_error`, `tallyReader_error`: an error of a call, and of a run of
  calls, is the first bad row of one of the files.
* `malformed_row_located`: which evaluations refuse the dataset, and with what.
-/

namespace LinkedDocs

/-! ## Records -/

namespace Csv

/-- All fields of the record are text. -/
def Record.IsText (r : Record) : Prop := ∀ field ∈ r.fields, ByteArray.IsValidUTF8 ⟨field.toArray⟩

/-- The records of a file below its header, if there is one. -/
def dataRecords (headers : Bool) (bytes : ByteArray) : List Record :=
  let all := records bytes.data.toList
  if headers then withoutHeader all else all

theorem rows_file (headers : Bool) (bytes : ByteArray) :
    rows headers (.file bytes) = (dataRecords headers bytes).map Record.texts := rfl

/-- Fields that are read as texts are as many, and all of them text. -/
theorem textsFrom_ok {before : Position} {number : Nat} {fields : List (List UInt8)}
    {texts : List String} (h : textsFrom before number fields = .ok texts) :
    texts.length = fields.length ∧ ∀ field ∈ fields, ByteArray.IsValidUTF8 ⟨field.toArray⟩ := by
  induction fields generalizing number texts with
  | nil =>
    cases h
    exact ⟨rfl, List.forall_mem_nil _⟩
  | cons field fields ih =>
    rw [textsFrom] at h
    by_cases hfield : ByteArray.IsValidUTF8 ⟨field.toArray⟩
    · simp only [String.fromUTF8?, dif_pos hfield] at h
      cases hrest : textsFrom before (number + 1) fields with
      | error fault =>
        rw [hrest] at h
        cases h
      | ok rest =>
        rw [hrest] at h
        cases h
        obtain ⟨hlength, hvalid⟩ := ih hrest
        exact ⟨congrArg (· + 1) hlength, List.forall_mem_cons.2 ⟨hfield, hvalid⟩⟩
    · simp only [String.fromUTF8?, dif_neg hfield] at h
      cases h

/-- Fields that cannot be read hold one that is not text. -/
theorem textsFrom_error {before : Position} {number : Nat} {fields : List (List UInt8)}
    {fault : Fault} (h : textsFrom before number fields = .error fault) :
    ∃ field ∈ fields, ¬ByteArray.IsValidUTF8 ⟨field.toArray⟩ := by
  induction fields generalizing number fault with
  | nil => cases h
  | cons field fields ih =>
    rw [textsFrom] at h
    by_cases hfield : ByteArray.IsValidUTF8 ⟨field.toArray⟩
    · simp only [String.fromUTF8?, dif_pos hfield] at h
      cases hrest : textsFrom before (number + 1) fields with
      | ok rest =>
        rw [hrest] at h
        cases h
      | error fault' =>
        obtain ⟨other, hmem, hother⟩ := ih hrest
        exact ⟨other, List.mem_cons_of_mem _ hmem, hother⟩
    · exact ⟨field, List.mem_cons_self, hfield⟩

end Csv

/-! ## The files of a dataset -/

namespace Dataset

/-- A file of a dataset: where it is, how many columns its rows have, and its data records. -/
structure DataFile where
  path : String
  width : Nat
  records : List Csv.Record

namespace DataFile

/-- The record has the wrong number of columns, or is not text. -/
def Malformed (file : DataFile) (record : Csv.Record) : Prop :=
  record.fields.length ≠ file.width ∨ ¬record.IsText

/-- Data row `i` is the first malformed one of the file. -/
structure FirstMalformed (file : DataFile) (i : Nat) (record : Csv.Record) : Prop where
  record_eq : file.records[i]? = some record
  malformed : file.Malformed record
  earlier : ∀ j < i, ∀ other, file.records[j]? = some other → ¬file.Malformed other

/-- What is said of data row `i`, which is malformed. -/
def Refusal (file : DataFile) (i : Nat) (record : Csv.Record) : ReadError → Prop
  | .csv fault => record.texts = .error fault
  | .wrongWidth path row expected found =>
    path = file.path ∧ row = i ∧ expected = file.width ∧ found = record.fields.length ∧
      found ≠ expected ∧ record.IsText

/-- The rows of the file are made of as many fields as it has columns. -/
def MadeBy {α : Type} (file : DataFile) (make : Nat → List String → Except ReadError α) : Prop :=
  ∀ n fields, if fields.length = file.width then ∃ row, make n fields = .ok row
    else make n fields = .error (.wrongWidth file.path n file.width fields.length)

end DataFile

/-! ## The first bad row of a feed -/

/-- The first bad row of the feed, behind good ones, is this error. -/
def FirstFault {α : Type} (feed : Feed α) (e : ReadError) : Prop :=
  ∃ good rest, feed = List.map Except.ok good ++ .error e :: rest

/-- Good rows in front change nothing. -/
theorem FirstFault.behind {α : Type} {feed : Feed α} {e : ReadError} (h : FirstFault feed e)
    (rows : List α) : FirstFault (rows.map .ok ++ feed) e := by
  obtain ⟨good, rest, rfl⟩ := h
  exact ⟨rows ++ good, rest, by rw [List.map_append, List.append_assoc]⟩

section

variable {α : Type} {make : Nat → List String → Except ReadError α} {next : Nat}
  {file : List (Except Csv.Fault (List String))} {fields : List String}

/-- The first bad row of a file stands behind as many rows as there are good ones before it. -/
theorem numberedOnto_firstFault {good : List α} {e : ReadError} {rest : Feed α}
    (h : numberedOnto make [] next file = good.map .ok ++ .error e :: rest) :
    (∃ fault, file[good.length]? = some (.error fault) ∧ e = .csv fault) ∨
      ∃ fields, file[good.length]? = some (.ok fields) ∧
        make (next + good.length) fields = .error e := by
  induction file generalizing next good with
  | nil =>
    cases good <;> cases h
  | cons row file ih =>
    -- The first row is either bad, and then the one that is sought, or good and passed over.
    rcases row with fault | fields
    · rw [numberedOnto_fault] at h
      cases good with
      | nil =>
        cases h
        exact .inl ⟨fault, rfl, rfl⟩
      | cons first good => cases h
    · cases hmake : make next fields with
      | error e' =>
        rw [numberedOnto_bad hmake] at h
        cases good with
        | nil =>
          cases h
          exact .inr ⟨fields, rfl, hmake⟩
        | cons first good => cases h
      | ok row' =>
        rw [numberedOnto_good hmake] at h
        cases good with
        | nil => cases h
        | cons first good =>
          have hlength : next + (first :: good).length = next + 1 + good.length := by
            rw [List.length_cons]
            omega
          rw [hlength]
          exact ih (List.cons.inj h).2

end

namespace DataFile

variable {α : Type} {file : DataFile} {make : Nat → List String → Except ReadError α}

/-- A row that is made of a record is well-formed. -/
theorem MadeBy.wellFormed (hmake : file.MadeBy make) {record : Csv.Record} {fields : List String}
    {n : Nat} {row : α} (htexts : record.texts = .ok fields) (hrow : make n fields = .ok row) :
    ¬file.Malformed record := by
  obtain ⟨hlength, htext⟩ := Csv.textsFrom_ok htexts
  have hwidth := hmake n fields
  split at hwidth
  · rename_i heq
    exact not_or.2 ⟨not_not.2 (hlength ▸ heq), not_not.2 htext⟩
  · rw [hrow] at hwidth
    cases hwidth

/-- The records in front of which good rows stand are well-formed. -/
theorem MadeBy.wellFormed_of_good (hmake : file.MadeBy make) {rows : List α} {rest : Feed α}
    (h : numbered make (file.records.map Csv.Record.texts) = rows.map .ok ++ rest) {i : Nat}
    (hi : i < rows.length) {record : Csv.Record} (hrecord : file.records[i]? = some record) :
    ¬file.Malformed record := by
  obtain ⟨fields, hfields, hrow⟩ := numberedOnto_segment h i hi
  rw [List.getElem?_map, hrecord, Option.map_some, Option.some.injEq] at hfields
  exact hmake.wellFormed hfields hrow

/-- Without a bad row the file has no malformed record. -/
theorem MadeBy.all_wellFormed (hmake : file.MadeBy make) {rows : List α}
    (h : numbered make (file.records.map Csv.Record.texts) = rows.map .ok) :
    ∀ record ∈ file.records, ¬file.Malformed record := by
  intro record hmem
  obtain ⟨i, hi, rfl⟩ := List.getElem_of_mem hmem
  have hlength := congrArg List.length h
  rw [numbered, length_numberedOnto, List.length_map, List.length_map] at hlength
  rw [← List.append_nil (rows.map _)] at h
  exact hmake.wellFormed_of_good h (hlength ▸ hi) (List.getElem?_eq_getElem hi)

/-- The first bad row of a feed is the first malformed record of the file. -/
theorem MadeBy.firstMalformed (hmake : file.MadeBy make) {e : ReadError}
    (h : FirstFault (numbered make (file.records.map Csv.Record.texts)) e) :
    ∃ i record, file.FirstMalformed i record ∧ file.Refusal i record e := by
  obtain ⟨good, rest, hfeed⟩ := h
  have hearlier : ∀ j < good.length, ∀ other, file.records[j]? = some other →
      ¬file.Malformed other := fun j hj other hother => hmake.wellFormed_of_good hfeed hj hother
  rcases numberedOnto_firstFault hfeed with ⟨fault, hrow, rfl⟩ | ⟨fields, hrow, hmade⟩
  · -- a record that is not text
    rw [List.getElem?_map, Option.map_eq_some_iff] at hrow
    obtain ⟨record, hrecord, htexts⟩ := hrow
    obtain ⟨field, hmem, hfield⟩ := Csv.textsFrom_error htexts
    have hmalformed : file.Malformed record := .inr fun htext => hfield (htext field hmem)
    exact ⟨good.length, record, ⟨hrecord, hmalformed, hearlier⟩, htexts⟩
  · -- a record that is text, but has too few or too many columns
    rw [List.getElem?_map, Option.map_eq_some_iff] at hrow
    obtain ⟨record, hrecord, htexts⟩ := hrow
    obtain ⟨hlength, htext⟩ := Csv.textsFrom_ok htexts
    have hwidth := hmake (0 + good.length) fields
    rw [hmade, Nat.zero_add] at hwidth
    split at hwidth
    · obtain ⟨row, hrow⟩ := hwidth
      cases hrow
    · rename_i hne
      obtain rfl := Except.error.inj hwidth
      have hmalformed : file.Malformed record := .inl (hlength ▸ hne)
      exact ⟨good.length, record, ⟨hrecord, hmalformed, hearlier⟩, rfl, rfl, rfl, hlength, hne,
        htext⟩

end DataFile

/-- Fields of the right number always make a main row. -/
theorem MainRow.exists_ofFields (path : String) (n : Nat) :
    ∀ fields : List String, fields.length = 8 → ∃ row, MainRow.ofFields path n fields = .ok row
  | [_, _, _, _, _, _, _, _], _ => ⟨_, rfl⟩

/-- Fields of the right number always make a related row. -/
theorem RelatedRow.exists_ofFields (kind : RelatedKind) (path : String) (n : Nat) :
    ∀ fields : List String, fields.length = 4 →
      ∃ row, RelatedRow.ofFields kind path n fields = .ok row
  | [_, _, _, _], _ => ⟨_, rfl⟩

/-- Main rows are made of the records of their file. -/
theorem MainRow.madeBy (path : String) (records : List Csv.Record) :
    DataFile.MadeBy ⟨path, MainRecord.columns.length, records⟩ (MainRow.ofFields path) := by
  intro n fields
  split
  · rename_i hlength
    exact exists_ofFields path n fields hlength
  · rename_i hlength
    rw [MainRow.ofFields.eq_def]
    split
    · exact absurd rfl hlength
    · rfl

/-- Related rows are made of the records of their file. -/
theorem RelatedRow.madeBy (kind : RelatedKind) (path : String) (records : List Csv.Record) :
    DataFile.MadeBy ⟨path, RelatedRecord.columns.length, records⟩
      (RelatedRow.ofFields kind path) := by
  intro n fields
  split
  · rename_i hlength
    exact exists_ofFields kind path n fields hlength
  · rename_i hlength
    rw [RelatedRow.ofFields.eq_def]
    split
    · exact absurd rfl hlength
    · rfl

/-! ## Errors of a reader -/

namespace RelatedStream

variable {main : MainRow} {own orphans done : List RelatedRow} {s t : RelatedStream}
  {e : ReadError}

/-- An error is yielded where it stands in the file. -/
theorem next?_error (h : s.next? = (.error e, t)) : s.rest = .error e :: t.rest := by
  rw [next?_eq] at h
  rcases hrest : s.rest with - | ⟨e' | row, rest⟩
  · rw [hrest] at h
    cases h
  · rw [hrest] at h
    cases h
    rfl
  · rw [hrest] at h
    cases h

/-- A row that is taken is a good one in front of what follows. -/
theorem firstFault_of_next? {row : RelatedRow} (hs : s.next? = (.ok (some row), t))
    (h : FirstFault t.rest e) : FirstFault s.rest e := by
  rw [rest_next? hs]
  exact h.behind [row]

/-- Collecting fails with the first fault that is left in the file. -/
theorem collectOnto_error (h : s.collectOnto main own orphans = (.error e, t)) :
    FirstFault s.rest e := by
  fun_induction collectOnto main own orphans s with
  | case1 own orphans s e' s' hs =>
    cases h
    exact ⟨[], _, next?_error hs⟩
  | case2 own orphans s s' hs => cases h
  | case3 own orphans s row s' hs hrow ih => exact firstFault_of_next? hs (ih h)
  | case4 own orphans s row s' hs hrow ih => exact firstFault_of_next? hs (ih h)
  | case5 own orphans s row s' hs hrow => cases h

theorem drainOnto_error (h : s.drainOnto done = (.error e, t)) : FirstFault s.rest e := by
  fun_induction drainOnto done s with
  | case1 done s e' s' hs =>
    cases h
    exact ⟨[], _, next?_error hs⟩
  | case2 done s s' hs => cases h
  | case3 done s row s' hs ih => exact firstFault_of_next? hs (ih h)

end RelatedStream

namespace Reader

variable {r r' : Reader} {e : ReadError}

/-- The error is the first bad row of one of the three files. -/
def Fails (r : Reader) (e : ReadError) : Prop :=
  FirstFault r.main e ∨ ∃ kind, FirstFault (r.related kind).rest e

/-- A group fails with the first fault of one of the files. -/
theorem nextGroup_error (h : r.nextGroup = (.error e, r')) : r.Fails e := by
  rw [nextGroup] at h
  split at h
  · cases h
  · -- the main row itself
    rename_i e' rest hmain
    cases h
    exact .inl ⟨[], rest, hmain⟩
  · rename_i main rest hmain
    split at h
    · -- a child that is read for the main row
      rename_i e' child hchild
      cases h
      exact .inr ⟨.child, RelatedStream.collectOnto_error hchild⟩
    · split at h
      · -- an inline row that is read for it
        rename_i e' inline hinline
        cases h
        exact .inr ⟨.inline, RelatedStream.collectOnto_error hinline⟩
      · cases h

/-- The rows that are left fail with the first fault of one of the files. -/
theorem remaining_error (h : r.remaining = (.error e, r')) : r.Fails e := by
  rw [remaining] at h
  split at h
  · rename_i e' child hchild
    cases h
    exact .inr ⟨.child, RelatedStream.drainOnto_error hchild⟩
  · split at h
    · rename_i e' inline hinline
      cases h
      exact .inr ⟨.inline, RelatedStream.drainOnto_error hinline⟩
    · cases h

/-- The rows of a group are good, so an error behind them is the first of its file. -/
theorem Fails.of_nextGroup {group : Group} (h : r'.Fails e)
    (hgroup : r.nextGroup = (.ok (some group), r')) : r.Fails e := by
  obtain ⟨hmain, children, inlines, hchild, hinline, -⟩ := nextGroup_ok hgroup
  rcases h with hfault | ⟨kind, hfault⟩
  · left
    rw [hmain]
    exact hfault.behind [group.main]
  · right
    refine ⟨kind, ?_⟩
    cases kind with
    | child =>
      have hrest : (r.related .child).rest = children.map .ok ++ (r'.related .child).rest :=
        hchild.rest_eq
      rw [hrest]
      exact hfault.behind children
    | inline =>
      have hrest : (r.related .inline).rest = inlines.map .ok ++ (r'.related .inline).rest :=
        hinline.rest_eq
      rw [hrest]
      exact hfault.behind inlines

end Reader

/-! ## The files of a directory -/

namespace Contents

variable (c : Contents) (dir : String) (headers : Bool)

def mainFile : DataFile :=
  ⟨(Paths.inDir dir).main, MainRecord.columns.length, Csv.dataRecords headers c.main⟩

def relatedFile (kind : RelatedKind) : DataFile :=
  ⟨(Paths.inDir dir).related kind, RelatedRecord.columns.length,
    Csv.dataRecords headers (c.related kind)⟩

/-- The three files as they are read in a directory. -/
def dataFiles : List DataFile :=
  [c.mainFile dir headers, c.relatedFile dir headers .child, c.relatedFile dir headers .inline]

variable {c dir headers}

/-- The files of a dataset are the main file and one for each kind. -/
theorem mem_dataFiles {file : DataFile} :
    file ∈ c.dataFiles dir headers ↔
      file = c.mainFile dir headers ∨ ∃ kind, file = c.relatedFile dir headers kind := by
  simp only [dataFiles, List.mem_cons, List.not_mem_nil, or_false]
  constructor
  · rintro (rfl | rfl | rfl)
    · exact .inl rfl
    · exact .inr ⟨.child, rfl⟩
    · exact .inr ⟨.inline, rfl⟩
  · rintro (rfl | ⟨kind, rfl⟩)
    · exact .inl rfl
    · cases kind with
      | child => exact .inr (.inl rfl)
      | inline => exact .inr (.inr rfl)

/-- The files as entries of a directory. -/
def files (c : Contents) : Files := ⟨.file c.main, .file c.child, .file c.inline⟩

theorem storedIn_dataTree : c.StoredIn "data" c.files.dataTree := by
  constructor
  · rfl
  · intro kind
    cases kind <;> rfl

theorem kindsAgree_reader : (c.reader dir headers).KindsAgree := by
  show (c.files.reader (Paths.inDir dir) headers).KindsAgree
  exact Reader.kindsAgree_reader

/-- The reader yields the main rows of the records of the main file. -/
theorem main_reader : (c.reader dir headers).main =
    numbered (MainRow.ofFields (Paths.inDir dir).main)
      ((c.mainFile dir headers).records.map Csv.Record.texts) := by
  show numbered _ (Csv.rows headers (.file c.main)) = _
  rw [Csv.rows_file]
  rfl

/-- The reader yields the related rows of the records of the file of their kind. -/
theorem rest_reader (kind : RelatedKind) :
    ((c.reader dir headers).related kind).rest =
      numbered (RelatedRow.ofFields kind ((Paths.inDir dir).related kind))
        ((c.relatedFile dir headers kind).records.map Csv.Record.texts) := by
  have hrest : ((c.reader dir headers).related kind).rest =
      numbered (RelatedRow.ofFields kind ((Paths.inDir dir).related kind))
        (Csv.rows headers (.file (c.related kind))) := by
    cases kind <;> rfl
  rw [hrest, Csv.rows_file]
  rfl

/-- The path of a file tells which of the three it is. -/
theorem eq_of_path_eq {file other : DataFile} (hfile : file ∈ c.dataFiles dir headers)
    (hother : other ∈ c.dataFiles dir headers) (h : file.path = other.path) : file = other := by
  have hnames : (mainFileName ≠ RelatedKind.child.fileName ∧
      mainFileName ≠ RelatedKind.inline.fileName) ∧
      RelatedKind.child.fileName ≠ RelatedKind.inline.fileName := by decide
  have hnodup : ((c.dataFiles dir headers).map DataFile.path).Nodup := by
    simp only [dataFiles, mainFile, relatedFile, Paths.inDir, Paths.related, List.map_cons,
      List.map_nil, List.nodup_cons, List.mem_cons, List.not_mem_nil, or_false, not_or,
      Path.join_inj, not_false_eq_true, List.nodup_nil, and_true]
    exact hnames
  exact List.inj_on_of_nodup_map hnodup hfile hother h

/-- The first bad row that a reader meets is a malformed record of one of the files. -/
theorem firstMalformed_of_fails {e : ReadError} (h : (c.reader dir headers).Fails e) :
    ∃ file ∈ c.dataFiles dir headers, ∃ i record,
      file.FirstMalformed i record ∧ file.Refusal i record e := by
  rcases h with hfault | ⟨kind, hfault⟩
  · have hmade := MainRow.madeBy (Paths.inDir dir).main (Csv.dataRecords headers c.main)
    rw [main_reader] at hfault
    exact ⟨_, mem_dataFiles.2 (.inl rfl), hmade.firstMalformed hfault⟩
  · have hmade := RelatedRow.madeBy kind ((Paths.inDir dir).related kind)
      (Csv.dataRecords headers (c.related kind))
    rw [rest_reader] at hfault
    exact ⟨_, mem_dataFiles.2 (.inr ⟨kind, rfl⟩), hmade.firstMalformed hfault⟩

/-- Files that are read to the end have no malformed record. -/
theorem wellFormed_of_readsAll {groups : List Group} {left : List RelatedRow}
    (h : (c.reader dir headers).ReadsAll groups left) :
    ∀ file ∈ c.dataFiles dir headers, ∀ record ∈ file.records, ¬file.Malformed record := by
  obtain ⟨⟨mains, hmain⟩, hrelated⟩ := h.good kindsAgree_reader
  intro file hfile
  rcases mem_dataFiles.1 hfile with rfl | ⟨kind, rfl⟩
  · have hmade := MainRow.madeBy (Paths.inDir dir).main (Csv.dataRecords headers c.main)
    rw [main_reader] at hmain
    exact hmade.all_wellFormed hmain
  · have hmade := RelatedRow.madeBy kind ((Paths.inDir dir).related kind)
      (Csv.dataRecords headers (c.related kind))
    obtain ⟨rows, hrows⟩ := hrelated kind
    rw [rest_reader] at hrows
    exact hmade.all_wellFormed hrows

end Contents

end Dataset

/-! ## Evaluations -/

namespace Evaluation

open Dataset

variable {e : ReadError}

/-- A tally fails only with a fault of the files. -/
theorem tallyGroups_error {n : Nat} {t : Tally} {r : Reader} (h : tallyGroups n t r = .error e) :
    r.Fails e := by
  induction n generalizing t r with
  | zero => cases h
  | succ n ih =>
    rw [tallyGroups] at h
    split at h
    · rename_i e' r' hgroup
      cases h
      exact Reader.nextGroup_error hgroup
    · cases h
    · rename_i group r' hgroup
      exact (ih h).of_nextGroup hgroup

/-- The groups that were checked are good, so an error behind them is the first of its file. -/
theorem fails_of_tallyGroups {n : Nat} {t t' : Tally} {r r' : Reader}
    (h : tallyGroups n t r = .ok (t', r')) (hfails : r'.Fails e) : r.Fails e := by
  induction n generalizing t r with
  | zero =>
    cases h
    exact hfails
  | succ n ih =>
    rw [tallyGroups] at h
    split at h
    · cases h
    · rename_i r₁ hnone
      cases h
      rwa [(Reader.nextGroup_none hnone).2] at hfails
    · rename_i group r₁ hgroup
      exact (ih h).of_nextGroup hgroup

theorem tallyReader_error {t : Tally} {r : Reader} (h : tallyReader t r = .error e) :
    r.Fails e := by
  rw [tallyReader] at h
  split at h
  · rename_i e' hgroups
    cases h
    exact tallyGroups_error hgroups
  · rename_i t' r' hgroups
    split at h
    · rename_i e' r'' hleft
      cases h
      exact fails_of_tallyGroups hgroups (Reader.remaining_error hleft)
    · cases h

/-- To log violations never fails. -/
theorem logViolations_ne_error {violations : List Violation} {session after : Session}
    {e : Error} : logViolations violations session ≠ (.error e, after) := by
  induction violations generalizing session with
  | nil => exact pure_ne_error
  | cons v rest ih =>
    intro h
    rw [logViolations, bind_error_iff] at h
    rcases h with hlog | ⟨_, t, -, hrest⟩
    · exact SessionWork.log_ne_error hlog
    · exact ih hrest

/-- Once the dataset is read, it is not refused any more. -/
theorem verdict_ne_dataset {strict : Bool} {found : Result} {session after : Session} :
    (if strict && !found.isClean then do
        logViolations found.violations
        throw (.violations found.violationCount)
        pure found
      else pure found : SessionWork Error Result) session ≠ (.error (.dataset e), after) := by
  intro h
  split at h
  · rcases bind_error_iff.1 h with hlog | ⟨_, _, -, h⟩
    · exact logViolations_ne_error hlog
    · rcases bind_error_iff.1 h with hthrow | ⟨_, _, hthrow, -⟩
      · cases (throw_error_iff.1 hthrow).1
      · exact throw_ne_ok hthrow
  · exact pure_ne_error h

/-- An evaluation fails with the fault of its tally, and with that alone. -/
theorem tallyDir_error_iff {options : Options} {dir : String} {session after : Session}
    {r : Reader} {tree : FileTree} {e : Error}
    (hopen : Reader.openDir dir options.headers session.tree = (.ok r, tree)) :
    tallyDir options dir session = (.error e, after) ↔
      ∃ fault, tallyReader { most := options.maxExamples } r = .error fault ∧ e = .dataset fault ∧
        after = { session with tree } := by
  have hwork : SessionWork.onTree (fun fault => Error.dataset (.csv (.file fault)))
      (Reader.openDir dir options.headers) session = (.ok r, { session with tree }) :=
    SessionWork.onTree_ok_iff.2 ⟨tree, hopen, rfl⟩
  rw [tallyDir, bind_of_ok hwork]
  cases htally : tallyReader { most := options.maxExamples } r with
  | ok t =>
    constructor
    · intro h
      exact absurd h pure_ne_error
    · rintro ⟨fault, hfault, -⟩
      cases hfault
  | error fault =>
    constructor
    · intro h
      obtain ⟨rfl, rfl⟩ := throw_error_iff.1 h
      exact ⟨fault, rfl, rfl, rfl⟩
    · rintro ⟨fault', hfault, rfl, rfl⟩
      cases hfault
      rfl

/-- An evaluation refuses a dataset that can be opened exactly if its reader meets a bad row. -/
theorem run_dataset_iff {options : Options} {dir : String} {session : Session} {r : Reader}
    {tree : FileTree}
    (hopen : Reader.openDir dir options.headers session.tree = (.ok r, tree)) :
    (∃ after, run options dir session = (.error (.dataset e), after)) ↔
      tallyReader { most := options.maxExamples } r = .error e := by
  constructor
  · rintro ⟨after, h⟩
    rw [run, bind_error_iff] at h
    rcases h with hlog | ⟨_, started, hlog, h⟩
    · exact absurd hlog SessionWork.log_ne_error
    have hopened : Reader.openDir dir options.headers started.tree = (.ok r, tree) := by
      rw [SessionWork.log_ok_iff.1 hlog]
      exact hopen
    rcases bind_error_iff.1 h with htally | ⟨t, found, -, h⟩
    · obtain ⟨fault, hfault, heq, -⟩ := (tallyDir_error_iff hopened).1 htally
      cases heq
      exact hfault
    · rcases bind_error_iff.1 h with hlog | ⟨_, _, -, h⟩
      · exact absurd hlog SessionWork.log_ne_error
      · exact absurd h verdict_ne_dataset
  · intro htally
    let started : Session := { session with
      events := ⟨.info, "evaluation started", [("dataset_dir", .string dir)]⟩ :: session.events }
    have hopened : Reader.openDir dir options.headers started.tree = (.ok r, tree) := hopen
    have htallied : tallyDir options dir started = (.error (.dataset e), { started with tree }) :=
      (tallyDir_error_iff hopened).2 ⟨e, htally, rfl, rfl⟩
    refine ⟨_, bind_error_iff.2 (.inr ⟨(), started, ?_, bind_error_iff.2 (.inl htallied)⟩)⟩
    exact SessionWork.log_ok_iff.2 rfl

/--
An evaluation of three files refuses the dataset exactly if a data row of one of
them is malformed, wherever it stands; otherwise it yields a result, or refuses
for its violations. The row that is named is the first malformed one of the file
that is named, with its widths.
-/
theorem malformed_row_located {c : Contents} {dir : String} {session : Session}
    (hstored : c.StoredIn dir session.tree) (options : Options) :
    let files := c.dataFiles dir options.headers
    ((∃ e after, run options dir session = (.error (.dataset e), after)) ↔
        ∃ file ∈ files, ∃ record ∈ file.records, file.Malformed record) ∧
      ((∀ file ∈ files, ∀ record ∈ file.records, ¬file.Malformed record) →
        (∃ result after, run options dir session = (.ok result, after)) ∨
          ∃ n after, run options dir session = (.error (.violations n), after)) ∧
      (∀ e after, run options dir session = (.error (.dataset e), after) →
        ∃ file ∈ files, ∃ i record, file.FirstMalformed i record ∧ file.Refusal i record e) ∧
      ∀ path row expected found after,
        run options dir session = (.error (.dataset (.wrongWidth path row expected found)), after) →
          (∃ file ∈ files, file.path = path) ∧
          ∀ file ∈ files, file.path = path → expected = file.width ∧ ∃ record,
            file.FirstMalformed row record ∧ record.IsText ∧ record.fields.length = found ∧
              found ≠ expected := by
  intro files
  have hopen := hstored.openDir options.headers
  have hlocated : ∀ e after, run options dir session = (.error (.dataset e), after) →
      ∃ file ∈ files, ∃ i record, file.FirstMalformed i record ∧ file.Refusal i record e :=
    fun e after h => Contents.firstMalformed_of_fails
      (tallyReader_error ((run_dataset_iff hopen).1 ⟨after, h⟩))
  have hiff : (∃ e after, run options dir session = (.error (.dataset e), after)) ↔
      ∃ file ∈ files, ∃ record ∈ file.records, file.Malformed record := by
    constructor
    · rintro ⟨e, after, h⟩
      obtain ⟨file, hfile, i, record, hfirst, -⟩ := hlocated e after h
      exact ⟨file, hfile, record, List.mem_of_getElem? hfirst.record_eq, hfirst.malformed⟩
    · rintro ⟨file, hfile, record, hrecord, hmalformed⟩
      cases htally : tallyReader { most := options.maxExamples } (c.reader dir options.headers) with
      | error e =>
        obtain ⟨after, h⟩ := (run_dataset_iff hopen).2 htally
        exact ⟨e, after, h⟩
      | ok t =>
        -- Had it been read to the end, the row would have been met.
        obtain ⟨groups, left, hall, -⟩ := tallyReader_ok_iff.1 htally
        exact absurd hmalformed (Contents.wellFormed_of_readsAll hall file hfile record hrecord)
  refine ⟨hiff, ?_, hlocated, ?_⟩
  · intro hgood
    rcases hrun : run options dir session with ⟨⟨e | n⟩ | result, after⟩
    · obtain ⟨file, hfile, record, hrecord, hmalformed⟩ := hiff.1 ⟨e, after, hrun⟩
      exact absurd hmalformed (hgood file hfile record hrecord)
    · exact .inr ⟨n, after, rfl⟩
    · exact .inl ⟨result, after, rfl⟩
  · intro path row expected found after h
    obtain ⟨file, hfile, i, record, hfirst, rfl, rfl, rfl, rfl, hne, htext⟩ := hlocated _ _ h
    refine ⟨⟨file, hfile, rfl⟩, ?_⟩
    intro other hother hpath
    obtain rfl := Contents.eq_of_path_eq hother hfile hpath
    exact ⟨rfl, record, hfirst, htext, rfl, hne⟩

/-- A short child row behind the orphans that follow the last main row. -/
def shortChildFile : Contents where
  main := "ID000000,a,b,c,d,e,f,g\n".toByteArray
  child := "C0,ID000000,v,w\nC1,stray,v,w\nC2,ID000007,v,w\nC3,ID000007\n".toByteArray
  inline := .empty

/-- A child with a field too few is named by its file, its row and both widths. -/
theorem short_child_row_located :
    ∃ after, run { strict := false } "data" { tree := shortChildFile.files.dataTree } =
        (.error (.dataset (.wrongWidth "data/child_doc.csv" 3 4 2)), after) ∧
      ∃ record, (shortChildFile.relatedFile "data" false .child).FirstMalformed 3 record ∧
        record.fields.length = 2 := by
  have hrun : (run { strict := false } "data" { tree := shortChildFile.files.dataTree }).1 =
      .error (.dataset (.wrongWidth "data/child_doc.csv" 3 4 2)) := by
    decide +kernel
  have hstored : shortChildFile.StoredIn "data"
      ({ tree := shortChildFile.files.dataTree } : Session).tree := Contents.storedIn_dataTree
  rcases h : run { strict := false } "data" { tree := shortChildFile.files.dataTree } with
    ⟨outcome, after⟩
  rw [h] at hrun
  obtain rfl : outcome = _ := hrun
  obtain ⟨-, -, -, hlocated⟩ := malformed_row_located hstored { strict := false }
  obtain ⟨-, hfirst⟩ := hlocated _ _ _ _ _ h
  obtain ⟨-, record, hfirst, -, hlength, -⟩ := hfirst
    (shortChildFile.relatedFile "data" false .child) (Contents.mem_dataFiles.2 (.inr ⟨_, rfl⟩)) rfl
  exact ⟨after, rfl, record, hfirst, hlength⟩

end Evaluation

end LinkedDocs
