import LinkedDocs.Proofs.Canonical
import LinkedDocs.Proofs.Runs

/-!
# A generated dataset passes its evaluation

A run that yields a report has put the rows of good documents into the three
files, and counted them. So an evaluation of the same directory finds no
violation, and its summary is that of the report.

* `canonical_documents`: good documents in order make a canonical dataset.
* `unmarked_documents`: their files do not begin with a byte order mark.
* `evaluation_of_documents`: an evaluation of the files of good documents.
* `generated_dataset_passes`: generation and evaluation together.
-/

namespace LinkedDocs.Generation

open Dataset Evaluation Calendar LinkedDocs.Random Text

/-! ## Rows of good documents -/

/-- The rows of good records are good, whatever their numbers are. -/
theorem GoodFrom.rows {α β : Type} {ofRecord : Nat → β → α} {Good : Nat → β → Prop}
    {Fine : Nat → α → Prop} {first : Nat} {records : List β} (h : GoodFrom Good first records)
    (hfine : ∀ i b, Good i b → ∀ rowIndex, Fine i (ofRecord rowIndex b)) (next : Nat) :
    GoodFrom Fine first (rowsFrom ofRecord next records) := by
  induction records generalizing first next with
  | nil => exact goodFrom_nil
  | cons record records ih =>
    rcases goodFrom_cons.1 h with ⟨hrecord, hrecords⟩
    exact goodFrom_cons.2 ⟨hfine _ _ hrecord next, ih hrecords (next + 1)⟩

/-- From the first place on, every member is good at its index. -/
theorem goodFrom_zero_iff {α : Type} {Good : Nat → α → Prop} {members : List α} :
    GoodFrom Good 0 members ↔ ∀ i (h : i < members.length), Good i members[i] := by
  unfold GoodFrom
  simp only [Nat.zero_add]

/-- What follows from being good at a place holds of every member. -/
theorem GoodFrom.forall_mem {α : Type} {Good : Nat → α → Prop} {first : Nat} {members : List α}
    (h : GoodFrom Good first members) {P : α → Prop} (hall : ∀ i a, Good i a → P a) :
    ∀ a ∈ members, P a := by
  intro a ha
  rcases List.getElem_of_mem ha with ⟨i, hi, rfl⟩
  exact hall _ _ (h i hi)

/-! ## Good documents are canonical -/

/-- The rows of good related records have the ids of their places, and are sound. -/
theorem related_rows_good {kind : RelatedKind} {parent : Nat} {records : List RelatedRecord}
    (h : GoodFrom (GoodRelated kind parent) 0 records) (next : Nat) :
    GoodFrom (fun j (row : RelatedRow) => row.id = DocId.related kind parent j ∧
      row.parentId = DocId.main parent ∧ SoundRelated row) 0
      (rowsFrom (RelatedRow.ofRecord kind) next records) :=
  h.rows (fun _ _ hr rowIndex => ⟨hr.id_eq, hr.parent_eq, hr.sound rowIndex⟩) next

/-- The rows of a good batch are a batch. -/
theorem GoodBatch.isBatch {kind : RelatedKind} {parent : Nat} {records : List RelatedRecord}
    (h : GoodBatch kind parent records) (next : Nat) :
    IsBatch kind parent (rowsFrom (RelatedRow.ofRecord kind) next records) := by
  have hrows := related_rows_good h.records next
  constructor
  · rw [length_rowsFrom]
    exact h.size
  · intro j hj
    exact (goodFrom_zero_iff.1 hrows j hj).1
  · exact hrows.forall_mem fun j row hrow => hrow.2.1
  · exact hrows.forall_mem fun j row hrow => hrow.2.2

/-- The main rows of good documents are in order. -/
theorem mainsInOrder_documents {docs : List Document} (h : GoodFrom GoodDocument 0 docs) :
    MainsInOrder (rowsFrom MainRow.ofRecord 0 (docs.map Document.main)) := by
  have hmains : GoodFrom GoodMain 0 (docs.map Document.main) := by
    intro i hi
    rw [List.getElem_map]
    exact (h i _).main
  have hrows : GoodFrom (fun i (row : MainRow) => row.id = DocId.main i ∧ SoundMain row) 0
      (rowsFrom MainRow.ofRecord 0 (docs.map Document.main)) :=
    hmains.rows (fun i r hr rowIndex => ⟨hr.id_eq, hr.sound rowIndex⟩) 0
  exact goodFrom_zero_iff.1 hrows

/-- The rows of a related file are the batches of the documents, one after the other. -/
theorem exists_batches {kind : RelatedKind} {first : Nat} {docs : List Document}
    (h : GoodFrom GoodDocument first docs) (next : Nat) :
    ∃ batches, batches.length = docs.length ∧ GoodFrom (IsBatch kind) first batches ∧
      rowsFrom (RelatedRow.ofRecord kind) next (docs.flatMap (Document.related · kind)) =
        batches.flatten := by
  induction docs generalizing first next with
  | nil => exact ⟨[], rfl, goodFrom_nil, rfl⟩
  | cons d docs ih =>
    rcases goodFrom_cons.1 h with ⟨hd, hdocs⟩
    rcases ih hdocs (next + (d.related kind).length) with ⟨batches, hlength, hbatches, hrows⟩
    refine ⟨rowsFrom (RelatedRow.ofRecord kind) next (d.related kind) :: batches, ?_,
      goodFrom_cons.2 ⟨(hd.batch kind).isBatch next, hbatches⟩, ?_⟩
    · rw [List.length_cons, hlength, List.length_cons]
    · rw [List.flatMap_cons, rowsFrom_append, hrows, List.flatten_cons]

/-- Good documents, numbered from 0, are a canonical dataset. -/
theorem canonical_documents {docs : List Document} (h : GoodFrom GoodDocument 0 docs) :
    Canonical (rowsFrom MainRow.ofRecord 0 (docs.map Document.main))
      (rowsFrom (RelatedRow.ofRecord .child) 0 (docs.flatMap (Document.related · .child)))
      (rowsFrom (RelatedRow.ofRecord .inline) 0 (docs.flatMap (Document.related · .inline))) := by
  have hbatches : ∀ kind, InBatches kind
      (rowsFrom MainRow.ofRecord 0 (docs.map Document.main)).length
      (rowsFrom (RelatedRow.ofRecord kind) 0 (docs.flatMap (Document.related · kind))) := by
    intro kind
    rcases exists_batches h 0 with ⟨batches, hlength, hgood, hrows⟩
    refine ⟨batches, ?_, goodFrom_zero_iff.1 hgood, hrows⟩
    rw [hlength, length_rowsFrom, List.length_map]
  exact ⟨mainsInOrder_documents h, hbatches .child, hbatches .inline⟩

/-- As many rows count as deleted as there are deleted documents. -/
theorem deletedCount_documents (records : List MainRecord) :
    Tally.deletedCount (rowsFrom MainRow.ofRecord 0 records) = records.countP (·.deleted) := by
  have hfrom : ∀ next, Tally.deletedCount (rowsFrom MainRow.ofRecord next records) =
      records.countP (·.deleted) := by
    intro next
    induction records generalizing next with
    | nil => rfl
    | cons record records ih =>
      have hflag : decide (deletedFlag? (MainRow.ofRecord next record).deleted = some true) =
          record.deleted := by
        show decide (deletedFlag? (MainRecord.deletedText record.deleted) = some true) = _
        rw [deletedFlag?_deletedText]
        cases record.deleted <;> rfl
      unfold Tally.deletedCount at ih ⊢
      rw [rowsFrom, List.countP_cons, List.countP_cons, ih, hflag]
  exact hfrom 0

/-! ## The files of good documents -/

/-- An id begins with a letter, not with a byte order mark. -/
theorem unmarked_main (index : Nat) :
    (DocId.main index).toList.head? ≠ some Csv.byteOrderMark := by
  rw [DocId.main, String.toList_append]
  intro hhead
  exact absurd (Option.some.inj hhead) (by decide)

/-- No id of a related document begins with a byte order mark. -/
theorem unmarked_related (kind : RelatedKind) (parent sequence : Nat) :
    (DocId.related kind parent sequence).toList.head? ≠ some Csv.byteOrderMark := by
  rw [DocId.toList_related]
  intro hhead
  cases kind with
  | child => exact absurd (Option.some.inj hhead) (by decide)
  | inline => exact absurd (Option.some.inj hhead) (by decide)

/-- No id of a numbered document begins with a byte order mark. -/
theorem NumberedDocument.unmarked {index : Nat} {d : Document} (h : NumberedDocument index d) :
    d.main.id.toList.head? ≠ some Csv.byteOrderMark ∧
      ∀ kind, ∀ r ∈ d.related kind, r.id.toList.head? ≠ some Csv.byteOrderMark := by
  constructor
  · rw [h.id_eq]
    exact unmarked_main index
  · intro kind
    refine (h.batch kind).records.forall_mem fun j r hr => ?_
    rw [hr.id_eq]
    exact unmarked_related kind index j

/-- No file of numbered documents begins with a byte order mark. -/
theorem unmarked_numbered (headers : Bool) {docs : List Document}
    (h : GoodFrom NumberedDocument 0 docs) :
    Unmarked headers (docs.map Document.main) fun kind =>
      docs.flatMap (Document.related · kind) := by
  have hall := h.forall_mem fun index d hd => hd.unmarked
  constructor
  · intro _ r hr
    rcases List.mem_map.1 (List.mem_of_mem_head? hr) with ⟨d, hd, rfl⟩
    exact (hall d hd).1
  · intro _ kind r hr
    rcases List.mem_flatMap.1 (List.mem_of_mem_head? hr) with ⟨d, hd, hr⟩
    exact (hall d hd).2 kind r hr

/-- No file of good documents begins with a byte order mark. -/
theorem unmarked_documents (headers : Bool) {docs : List Document}
    (h : GoodFrom GoodDocument 0 docs) :
    Unmarked headers (docs.map Document.main) fun kind =>
      docs.flatMap (Document.related · kind) :=
  unmarked_numbered headers (h.mono fun _ _ hd => hd.numbered)

/-! ## Generation and evaluation -/

/-- Where the files of good documents are stored, an evaluation finds no violation. -/
theorem evaluation_of_documents {docs : List Document} {headers : Bool} {dir : String}
    {session : Session} {checks : Evaluation.Options} (hdocs : GoodFrom GoodDocument 0 docs)
    (hfew : docs.length < word64) (hstored : (filesOf headers docs).StoredIn dir session.tree)
    (hheaders : checks.headers = headers) :
    ∃ result later, Evaluation.run checks dir session = (.ok result, later) ∧
      result.violationCount = 0 ∧
      result.summary = {
        mainRows := docs.length
        childRows := (countsOf docs).child
        inlineRows := (countsOf docs).inline
        orphanRows := 0
        deletedRows := (countsOf docs).deleted } := by
  have hholds := holds_ofRecords (unmarked_documents headers hdocs) dir
  have hmains : (rowsFrom MainRow.ofRecord 0 (docs.map Document.main)).length = docs.length := by
    rw [length_rowsFrom, List.length_map]
  obtain ⟨t, htally, hclean, hsummary⟩ := (canonical_documents hdocs).tally_clean
    (hmains.trans_le (Nat.le_of_lt hfew)) hholds checks.maxExamples
  have hopened := hstored.openDir checks.headers
  rw [← hheaders] at hopened htally
  obtain ⟨later, hresult⟩ := run_ok_iff.2 ⟨_, _, t, hopened, htally, rfl, fun _ => hclean⟩
  refine ⟨_, later, hresult, hclean, ?_⟩
  show t.summary = _
  rw [hsummary, hmains, length_rowsFrom, length_rowsFrom, deletedCount_documents]
  rfl

variable {σ : Type} [WordStream σ] [Lexicon σ]

/--
Whatever is drawn, and whatever company names there are: if generation yields a
report, then an evaluation of its directory with the same choice of header rows,
strict or not, finds no violation as long as the files are the same; its summary
is that of the report, without orphans.
-/
theorem generated_dataset_passes (hquote : ∀ w ∈ Lexicon.loremWords σ, '\'' ∉ w.toList)
    {options : Options} {localTime : DateTime} {count : Nat} {source : Source σ}
    {session session' later : Session} {report : Report} {checks : Evaluation.Options}
    (hcount : count < word64)
    (hrun : runFrom options localTime count source session = (.ok report, session'))
    (hfiles : later.tree = session'.tree) (hheaders : checks.headers = options.headers) :
    (∃ result later', Evaluation.run checks options.outDir later = (.ok result, later') ∧
      result.violationCount = 0 ∧
      result.summary = {
        mainRows := report.rows.main
        childRows := report.rows.child
        inlineRows := report.rows.inline
        orphanRows := 0
        deletedRows := report.rows.deleted }) ∧
    report.rows.main = count ∧ report.count = count := by
  -- The documents are what was written and what is read; both halves meet in them.
  rcases runFrom_stores hrun with ⟨-, docs, left, hdraw, rfl, hstored⟩
  rcases yields_drawDocuments hquote _ _ _ _ _ _ hdraw with ⟨hlength, hdocs⟩
  rw [← hfiles] at hstored
  exact ⟨evaluation_of_documents hdocs (hlength.trans_lt hcount) hstored hheaders, hlength, rfl⟩

/-- A deleted document with five children and an inline document, in files with header rows. -/
theorem deleted_document_passes :
    ∃ report session', runFrom { headers := true } startOfDays 1 sixWords { tree := {} } =
        (.ok report, session') ∧ report.rows = ⟨1, 5, 1, 1⟩ ∧
      (∃ result later', Evaluation.run { headers := true } "data" session' =
          (.ok result, later') ∧
        result.violationCount = 0 ∧
        result.summary = {
          mainRows := report.rows.main
          childRows := report.rows.child
          inlineRows := report.rows.inline
          orphanRows := 0
          deletedRows := report.rows.deleted }) ∧
      report.rows.main = 1 ∧ report.count = 1 := by
  -- Only the generation is evaluated here.
  have hok : (runFrom { headers := true } startOfDays 1 sixWords
      { tree := {} }).1.toOption.any (·.rows = ⟨1, 5, 1, 1⟩) = true := by
    decide +kernel
  rcases exists_ok_of_fst_any hok with ⟨report, session', hrun, hrows⟩
  have hpasses := @generated_dataset_passes Script _ _ quote_notMem_loremWords
    { headers := true } startOfDays 1 sixWords { tree := {} } session' session' report
    { headers := true } (by decide) hrun rfl rfl
  exact ⟨report, session', hrun, of_decide_eq_true hrows, hpasses⟩

end LinkedDocs.Generation
