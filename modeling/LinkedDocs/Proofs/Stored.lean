import LinkedDocs.Dataset.Reader
import LinkedDocs.Dataset.Writer
import LinkedDocs.Proofs.CsvRoundTrip
import LinkedDocs.Proofs.Places

/-!
# A writer and what it stores

A writer that is created can put text into three files of its directory. Closing
it, or giving it up, stores that text: the files are there, and a reader of the
directory finds them.

* `Contents`: what the three files of a dataset hold.
* `StoredIn`: a directory in which these contents are found.
* `Writer.create_ok`, `Writer.flush_stores`: from the creation to the files.
* `Writer.writeRows`: the rows of documents behind what is written.
* `Contents.ofRecords`: the files of documents.
-/

namespace LinkedDocs.Dataset

/-! ## The contents of a dataset -/

/-- What the three files of a dataset hold. -/
structure Contents where
  main : ByteArray
  child : ByteArray
  inline : ByteArray

namespace Contents

/-- The bytes of the file of a kind. -/
def related (c : Contents) : RelatedKind → ByteArray
  | .child => c.child
  | .inline => c.inline

/-- The number of bytes of each file. -/
def sizes (c : Contents) : Sizes := ⟨c.main.size, c.child.size, c.inline.size⟩

/-- One dataset behind another, file by file. -/
instance : Append Contents where
  append c c' := ⟨c.main ++ c'.main, c.child ++ c'.child, c.inline ++ c'.inline⟩

/-- A reader at the front of the files. -/
def reader (c : Contents) (dir : String) (headers : Bool) : Reader :=
  Reader.ofEntries (Paths.inDir dir) headers (.file c.main) (.file c.child) (.file c.inline)

/-- The three files of the directory can be opened, and hold these bytes. -/
structure StoredIn (c : Contents) (dir : String) (t : FileTree) : Prop where
  main : FileWork.openEntry (Paths.inDir dir).main t = (.ok (.file c.main), t)
  related : ∀ kind,
    FileWork.openEntry ((Paths.inDir dir).related kind) t = (.ok (.file (c.related kind)), t)

variable {c c' : Contents} {dir : String} {t : FileTree}

/-- Stored files are opened as the reader of their contents. -/
theorem StoredIn.openDir (h : c.StoredIn dir t) (headers : Bool) :
    Reader.openDir dir headers t = (.ok (c.reader dir headers), t) := by
  have hchild : FileWork.openEntry (Paths.inDir dir).child t = (.ok (.file c.child), t) :=
    h.related .child
  have hinline : FileWork.openEntry (Paths.inDir dir).inline t = (.ok (.file c.inline), t) :=
    h.related .inline
  unfold Reader.openDir
  rw [bind_of_ok h.main, bind_of_ok hchild, bind_of_ok hinline]
  rfl

/-- A directory holds one dataset at a time. -/
theorem StoredIn.unique (h : c.StoredIn dir t) (h' : c'.StoredIn dir t) : c = c' := by
  have hmain := h.main.symm.trans h'.main
  have hrelated := fun kind => (h.related kind).symm.trans (h'.related kind)
  rw [Prod.mk.injEq, Except.ok.injEq, Entry.file.injEq] at hmain
  have hbytes : ∀ kind, c.related kind = c'.related kind := by
    intro kind
    have heq := hrelated kind
    rw [Prod.mk.injEq, Except.ok.injEq, Entry.file.injEq] at heq
    exact heq.1
  rcases c with ⟨main, child, inline⟩
  rcases c' with ⟨main', child', inline'⟩
  rw [Contents.mk.injEq]
  exact ⟨hmain.1, hbytes .child, hbytes .inline⟩

end Contents

/-! ## A writer and its files -/

/-- The files of a writer are or can be made where their paths lead. -/
structure Writer.Opened (paths : Paths) (t : FileTree) (w : Writer) : Prop where
  main : t.FileAt paths.main w.main.place
  related : ∀ kind, t.FileAt (paths.related kind) (w.related kind).place

/-- Nothing is written so far but the header rows. -/
structure Writer.Fresh (headers : Bool) (w : Writer) : Prop where
  main : w.main.text = Csv.fileText headers MainRecord.columns []
  related : ∀ kind, (w.related kind).text = Csv.fileText headers RelatedRecord.columns []

/-- A file that was created begins with the names of its columns, if it has them. -/
theorem Sink.create_ok {path : String} {columns : List String} {headers : Bool} {s : Sink}
    {t t' : FileTree} (h : Sink.create path columns headers t = (.ok s, t')) :
    t.FileAt path s.place ∧ t.SameDirs t' ∧ s.text = Csv.fileText headers columns [] := by
  unfold Sink.create at h
  rcases bind_ok_iff.1 h with ⟨place, u, hcreate, h⟩
  rcases pure_ok_iff.1 h with ⟨rfl, rfl⟩
  rcases FileWork.createFile_ok_iff.1 hcreate with ⟨hfile, rfl⟩
  exact ⟨hfile, hfile.sameDirs _, (Csv.fileText_nil _ _).symm⟩

theorem Writer.flushOnFault_ok_iff {α : Type} {opened : Sink} {work : FileWork α} {a : α}
    {t t' : FileTree} :
    flushOnFault opened work t = (.ok a, t') ↔ work t = (.ok a, t') := by
  refine tryCatch_ok_iff fun fault u h => ?_
  rcases bind_ok_iff.1 h with ⟨_, v, -, hthrow⟩
  exact throw_ne_ok hthrow

/-- A writer that is created has its three files open, with the header rows. -/
theorem Writer.create_ok {paths : Paths} {headers : Bool} {w : Writer} {t t' : FileTree}
    (h : Writer.create paths headers t = (.ok w, t')) :
    w.Opened paths t' ∧ w.Fresh headers := by
  unfold Writer.create at h
  rcases bind_ok_iff.1 h with ⟨main, u, hmain, h⟩
  rcases bind_ok_iff.1 (flushOnFault_ok_iff.1 h) with ⟨child, v, hchild, h⟩
  rcases bind_ok_iff.1 (flushOnFault_ok_iff.1 h) with ⟨inline, t', hinline, h⟩
  rcases pure_ok_iff.1 h with ⟨rfl, rfl⟩
  rcases Sink.create_ok hmain with ⟨hmain, htu, htextm⟩
  rcases Sink.create_ok hchild with ⟨hchild, huv, htextc⟩
  rcases Sink.create_ok hinline with ⟨hinline, hvt, htexti⟩
  -- Creating the later files keeps the directories, so the earlier paths lead where they led.
  refine ⟨⟨hmain.of_sameDirs ((htu.trans huv).trans hvt), fun kind => ?_⟩,
    ⟨htextm, fun kind => ?_⟩⟩
  · cases kind with
    | child => exact hchild.of_sameDirs (huv.trans hvt)
    | inline => exact hinline.of_sameDirs hvt
  · cases kind with
    | child => exact htextc
    | inline => exact htexti

/-- The text of a writer, as it is put into the files. -/
def Writer.contents (w : Writer) : Contents where
  main := w.main.text.toByteArray
  child := w.child.text.toByteArray
  inline := w.inline.text.toByteArray

/-- Giving up a writer stores what was written. -/
theorem Writer.flush_stores {dir : String} {w : Writer} {t : FileTree}
    (h : w.Opened (Paths.inDir dir) t) :
    ∃ t', w.flush t = (.ok (), t') ∧ w.contents.StoredIn dir t' := by
  have hmain : t.FileAt (Path.join dir mainFileName) w.main.place := h.main
  have hchild : t.FileAt (Path.join dir RelatedKind.child.fileName) w.child.place :=
    h.related .child
  have hinline : t.FileAt (Path.join dir RelatedKind.inline.fileName) w.inline.place :=
    h.related .inline
  -- The names differ, so no file is put in the place of another.
  have hmc := hmain.place_ne hchild (by decide) (by decide) (by decide)
  have hmi := hmain.place_ne hinline (by decide) (by decide) (by decide)
  have hci := hchild.place_ne hinline (by decide) (by decide) (by decide)
  refine ⟨((t.set w.main.place (.file w.main.text.toByteArray)).set w.child.place
    (.file w.child.text.toByteArray)).set w.inline.place
    (.file w.inline.text.toByteArray), rfl, ?_⟩
  have hsame1 := hmain.sameDirs w.main.text.toByteArray
  have hsame2 := hsame1.trans ((hchild.of_sameDirs hsame1).sameDirs w.child.text.toByteArray)
  have hsame3 := hsame2.trans ((hinline.of_sameDirs hsame2).sameDirs w.inline.text.toByteArray)
  have hopenm := FileWork.openEntry_eq (hmain.of_sameDirs hsame3) (by
    rw [FileTree.lookup_set _ _ _ _ hinline.ne_nil, if_neg hmi,
      FileTree.lookup_set _ _ _ _ hchild.ne_nil, if_neg hmc,
      FileTree.lookup_set _ _ _ _ hmain.ne_nil, if_pos rfl])
  have hopenc := FileWork.openEntry_eq (hchild.of_sameDirs hsame3) (by
    rw [FileTree.lookup_set _ _ _ _ hinline.ne_nil, if_neg hci,
      FileTree.lookup_set _ _ _ _ hchild.ne_nil, if_pos rfl])
  have hopeni := FileWork.openEntry_eq (hinline.of_sameDirs hsame3) (by
    rw [FileTree.lookup_set _ _ _ _ hinline.ne_nil, if_pos rfl])
  constructor
  · exact hopenm
  · intro kind
    cases kind with
    | child => exact hopenc
    | inline => exact hopeni

/-- The sizes that are told when a writer is closed are those of its files. -/
theorem Writer.finish_eq {w : Writer} {t t' : FileTree} (h : w.flush t = (.ok (), t')) :
    w.finish t = (.ok w.contents.sizes, t') := by
  unfold finish
  rw [bind_of_ok h]
  rfl

/-! ## Rows behind what is written -/

/-- Rows more. -/
def Sink.writeRows (s : Sink) (rows : List (List String)) : Sink :=
  { s with text := s.text ++ Csv.table rows }

theorem Sink.writeRows_nil (s : Sink) : s.writeRows [] = s := by
  show { s with text := s.text ++ "" } = s
  rw [String.append_empty]

theorem Sink.writeRow_eq (s : Sink) (fields : List String) :
    s.writeRow fields = s.writeRows [fields] := by
  show _ = { s with text := s.text ++ Csv.table [fields] }
  rw [Csv.table_cons]
  show _ = { s with text := s.text ++ (Csv.row fields ++ "") }
  rw [String.append_empty]
  rfl

theorem Sink.writeRows_append (s : Sink) (rows rows' : List (List String)) :
    (s.writeRows rows).writeRows rows' = s.writeRows (rows ++ rows') := by
  unfold writeRows
  rw [Csv.table_append, String.append_assoc]

/-- What is written to a fresh file is behind the header row. -/
theorem Sink.text_writeRows {headers : Bool} {columns : List String} {s : Sink}
    (h : s.text = Csv.fileText headers columns []) (rows : List (List String)) :
    (s.writeRows rows).text = Csv.fileText headers columns rows := by
  show s.text ++ Csv.table rows = _
  rw [h, Csv.fileText_nil]
  rfl

/-- Records of one kind. -/
def only (kind : RelatedKind) (records : List RelatedRecord) : RelatedKind → List RelatedRecord :=
  fun other => if other = kind then records else []

theorem only_nil (kind : RelatedKind) : only kind [] = fun _ => [] := by
  funext other
  exact ite_self _

theorem only_append (kind : RelatedKind) (records records' : List RelatedRecord) :
    (fun other => only kind records other ++ only kind records' other) =
      only kind (records ++ records') := by
  funext other
  unfold only
  by_cases h : other = kind
  · rw [if_pos h, if_pos h, if_pos h]
  · rw [if_neg h, if_neg h, if_neg h, List.append_nil]

namespace Writer

variable {w : Writer} {mains mains' : List MainRecord}
  {batches batches' : RelatedKind → List RelatedRecord}

/-- The rows of main documents and of related documents of each kind more. -/
def writeRows (w : Writer) (mains : List MainRecord)
    (batches : RelatedKind → List RelatedRecord) : Writer where
  main := w.main.writeRows (mains.map MainRecord.row)
  child := w.child.writeRows ((batches .child).map RelatedRecord.row)
  inline := w.inline.writeRows ((batches .inline).map RelatedRecord.row)

/-- To each file of related rows those of its kind are written. -/
theorem related_writeRows (kind : RelatedKind) :
    (w.writeRows mains batches).related kind =
      (w.related kind).writeRows ((batches kind).map RelatedRecord.row) := by
  cases kind <;> rfl

theorem writeRows_nothing : w.writeRows [] (fun _ => []) = w := by
  show Writer.mk (w.main.writeRows []) (w.child.writeRows []) (w.inline.writeRows []) = w
  rw [Sink.writeRows_nil, Sink.writeRows_nil, Sink.writeRows_nil]

/-- What is written in two steps is written in one. -/
theorem writeRows_append :
    (w.writeRows mains batches).writeRows mains' batches' =
      w.writeRows (mains ++ mains') fun kind => batches kind ++ batches' kind := by
  simp only [writeRows, Sink.writeRows_append, List.map_append]

/-- A main document is one row of one file. -/
theorem writeMain_eq (record : MainRecord) :
    w.writeMain record = w.writeRows [record] fun _ => [] := by
  show Writer.mk (w.main.writeRow record.row) w.child w.inline =
    Writer.mk (w.main.writeRows [record.row]) (w.child.writeRows []) (w.inline.writeRows [])
  rw [Sink.writeRow_eq, Sink.writeRows_nil, Sink.writeRows_nil]

/-- A related document is one row of the file of its kind. -/
theorem writeRelated_eq (kind : RelatedKind) (record : RelatedRecord) :
    w.writeRelated kind record = w.writeRows [] (only kind [record]) := by
  cases kind with
  | child =>
    show Writer.mk w.main (w.child.writeRow record.row) w.inline =
      Writer.mk (w.main.writeRows []) (w.child.writeRows [record.row]) (w.inline.writeRows [])
    rw [Sink.writeRow_eq, Sink.writeRows_nil, Sink.writeRows_nil]
  | inline =>
    show Writer.mk w.main w.child (w.inline.writeRow record.row) =
      Writer.mk (w.main.writeRows []) (w.child.writeRows []) (w.inline.writeRows [record.row])
    rw [Sink.writeRow_eq, Sink.writeRows_nil, Sink.writeRows_nil]

/-- A writer stays open while rows are written. -/
theorem Opened.writeRows {paths : Paths} {t : FileTree} (h : w.Opened paths t)
    (mains : List MainRecord) (batches : RelatedKind → List RelatedRecord) :
    (w.writeRows mains batches).Opened paths t := by
  constructor
  · exact h.main
  · intro kind
    rw [related_writeRows]
    exact h.related kind

end Writer

/-! ## The files of documents -/

namespace Contents

/-- The files of documents: the header rows if asked for, and the rows of the documents. -/
def ofRecords (headers : Bool) (mains : List MainRecord)
    (batches : RelatedKind → List RelatedRecord) : Contents where
  main := (Csv.fileText headers MainRecord.columns (mains.map MainRecord.row)).toByteArray
  child :=
    (Csv.fileText headers RelatedRecord.columns
      ((batches .child).map RelatedRecord.row)).toByteArray
  inline :=
    (Csv.fileText headers RelatedRecord.columns
      ((batches .inline).map RelatedRecord.row)).toByteArray

/-- The header row of each file. -/
def headerRows : Contents where
  main := (Csv.row MainRecord.columns).toByteArray
  child := (Csv.row RelatedRecord.columns).toByteArray
  inline := (Csv.row RelatedRecord.columns).toByteArray

/-- The rows of more documents are behind those of the others. -/
theorem ofRecords_append (headers : Bool) (mains mains' : List MainRecord)
    (batches batches' : RelatedKind → List RelatedRecord) :
    ofRecords headers (mains ++ mains') (fun kind => batches kind ++ batches' kind) =
      ofRecords headers mains batches ++ ofRecords false mains' batches' := by
  unfold ofRecords
  simp only [List.map_append, Csv.fileText_append, String.toByteArray_append]
  rfl

/-- Header rows stand before all other rows and change none of them. -/
theorem ofRecords_headers (mains : List MainRecord)
    (batches : RelatedKind → List RelatedRecord) :
    ofRecords true mains batches = headerRows ++ ofRecords false mains batches := by
  have hnone : ofRecords true [] (fun _ => []) = headerRows := by
    unfold ofRecords headerRows
    rw [List.map_nil, List.map_nil, Csv.fileText_nil, Csv.fileText_nil, if_pos rfl, if_pos rfl]
  rw [← hnone]
  exact ofRecords_append true [] mains (fun _ => []) batches

end Contents

/-- What is written to a fresh writer are the files of the documents. -/
theorem Writer.Fresh.contents_writeRows {headers : Bool} {w : Writer} (h : w.Fresh headers)
    (mains : List MainRecord) (batches : RelatedKind → List RelatedRecord) :
    (w.writeRows mains batches).contents = Contents.ofRecords headers mains batches := by
  unfold Writer.contents Contents.ofRecords
  rw [Contents.mk.injEq]
  refine ⟨?_, ?_, ?_⟩
  · exact congrArg String.toByteArray (Sink.text_writeRows h.main _)
  · exact congrArg String.toByteArray (Sink.text_writeRows (h.related .child) _)
  · exact congrArg String.toByteArray (Sink.text_writeRows (h.related .inline) _)

end LinkedDocs.Dataset
