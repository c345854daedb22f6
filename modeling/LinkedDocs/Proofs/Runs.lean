import LinkedDocs.Proofs.Drawn
import LinkedDocs.Proofs.Frame

/-!
# Runs

A run that yields a report has made its directory and the three files, and has
drawn all its documents; and where both can be done, there is a report. The files
hold the documents drawn, and the report counts them.

* `Ready`: the directory and the files of a run can be made.
* `filesOf`, `reportOf`: the files and the report of documents.
* `runFrom_ok`: the steps of a run that yields a report.
* `runFrom_stores`: what such a run has done.
* `runFrom_grows`: what any run has left as it was.
* `exists_runFrom`: when a run yields a report.
-/

namespace LinkedDocs.Generation

open Dataset Calendar LinkedDocs.Random

/-! ## Files and reports of documents -/

/-- The files of documents. -/
def filesOf (headers : Bool) (docs : List Document) : Contents :=
  .ofRecords headers (docs.map Document.main) fun kind => docs.flatMap (Document.related · kind)

/-- The rows of each kind in documents. -/
def countsOf (docs : List Document) : RowCounts where
  main := docs.length
  child := (docs.flatMap (Document.related · .child)).length
  inline := (docs.flatMap (Document.related · .inline)).length
  deleted := (docs.map Document.main).countP (·.deleted)

/-- The report of a run that wrote these documents. -/
def reportOf (options : Options) (count : Nat) (docs : List Document) : Report where
  count
  rows := countsOf docs
  bytesWritten := (filesOf options.headers docs).sizes.total
  durationMs := 0
  seed := options.seed
  paths := Paths.inDir options.outDir

/-- Further documents are written behind the first ones, without names of columns. -/
theorem filesOf_append (headers : Bool) (docs more : List Document) :
    filesOf headers (docs ++ more) = filesOf headers docs ++ filesOf false more := by
  unfold filesOf
  simp only [List.map_append, List.flatMap_append]
  exact Contents.ofRecords_append headers _ _ _ _

theorem filesOf_headers (docs : List Document) :
    filesOf true docs = Contents.headerRows ++ filesOf false docs :=
  Contents.ofRecords_headers _ _

variable {σ : Type}

/-- What is counted since a run began are the documents added. -/
theorem rows_addDocuments (source source' : Source σ) (w : Writer) (docs : List Document) :
    ((⟨source, w, {}⟩ : Progress σ).addDocuments source' docs).rows = countsOf docs := by
  show RowCounts.mk (0 + _) (0 + _) (0 + _) (0 + _) = _
  rw [Nat.zero_add, Nat.zero_add, Nat.zero_add, Nat.zero_add, List.length_map]
  rfl

/-- Documents added to a fresh writer are what it stores. -/
theorem finish_addDocuments {options : Options} {w : Writer} {t : FileTree}
    (source source' : Source σ) (docs : List Document)
    (hopened : w.Opened (Paths.inDir options.outDir) t) (hfresh : w.Fresh options.headers) :
    ∃ t', ((⟨source, w, {}⟩ : Progress σ).addDocuments source' docs).writer.finish t =
        (.ok (filesOf options.headers docs).sizes, t') ∧
      (filesOf options.headers docs).StoredIn options.outDir t' := by
  have hcontents : ((⟨source, w, {}⟩ : Progress σ).addDocuments source' docs).writer.contents =
      filesOf options.headers docs := hfresh.contents_writeRows _ _
  rcases Writer.flush_stores (hopened.writeRows _ _) with ⟨t', hflush, hstored⟩
  have hfinish := Writer.finish_eq hflush
  refine ⟨t', ?_, ?_⟩
  · rw [← hcontents]
    exact hfinish
  · rw [← hcontents]
    exact hstored

variable [WordStream σ] [Lexicon σ]

/-! ## Steps of a run -/

/-- The directory of a run and its three files can be made. -/
def Ready (outDir : String) (headers : Bool) (t : FileTree) : Prop :=
  outDir.isEmpty = false ∧ ∃ made opened w,
    FileWork.makeDirs outDir t = (.ok (), made) ∧
    Writer.create (Paths.inDir outDir) headers made = (.ok w, opened)

/-- The log of progress leaves the files alone. -/
theorem logProgress_ok {total : Nat} {marks : List Nat} {session session' : Session} {u : Unit}
    (h : logProgress total marks session = (.ok u, session')) : session'.tree = session.tree := by
  induction marks generalizing session with
  | nil =>
    cases h
    rfl
  | cons mark marks ih =>
    rw [logProgress] at h
    rcases bind_ok_iff.1 h with ⟨_, later, hlog, hrest⟩
    rw [ih hrest, SessionWork.log_ok_iff.1 hlog]

theorem exists_logProgress (total : Nat) (marks : List Nat) (session : Session) :
    ∃ session', logProgress total marks session = (.ok (), session') := by
  induction marks generalizing session with
  | nil => exact ⟨session, rfl⟩
  | cons mark marks ih =>
    rw [logProgress]
    rcases ih _ with ⟨session', hrest⟩
    exact ⟨session', bind_ok_iff.2 ⟨(), _, SessionWork.log_ok_iff.2 rfl, hrest⟩⟩

/-- A fault of the creation is logged and passed on. -/
theorem createLogged_ok_iff {options : Options} {paths : Paths} {w : Writer}
    {session session' : Session} :
    (tryCatch (SessionWork.onTree .file (Writer.create paths options.headers))
      fun error => do
        SessionWork.log .warn "generation aborted; outputs are incomplete"
          [("error", .string error.message), ("main_rows", .ofNat 0)]
        throw error : SessionWork Error Writer) session = (.ok w, session') ↔
      ∃ tree, Writer.create paths options.headers session.tree = (.ok w, tree) ∧
        session' = { session with tree } := by
  rw [tryCatch_ok_iff, SessionWork.onTree_ok_iff]
  intro error failed hhandled
  rcases bind_ok_iff.1 hhandled with ⟨_, _, _, hthrow⟩
  exact throw_ne_ok hthrow

/-- The steps of a run that yields a report, and what each of them leaves. -/
theorem runFrom_ok {options : Options} {localTime : DateTime} {count : Nat} {source : Source σ}
    {session session' : Session} {report : Report}
    (h : runFrom options localTime count source session = (.ok report, session')) :
    options.outDir.isEmpty = false ∧ ∃ made opened w docs left,
      FileWork.makeDirs options.outDir session.tree = (.ok (), made) ∧
      Writer.create (Paths.inDir options.outDir) options.headers made = (.ok w, opened) ∧
      drawDocuments (options.referenceTime.getD localTime) 0 count source = .ok (docs, left) ∧
      ((⟨source, w, {}⟩ : Progress σ).addDocuments left docs).writer.flush opened =
        (.ok (), session'.tree) ∧
      report = reportOf options count docs := by
  unfold runFrom at h
  split at h
  · rcases bind_ok_iff.1 h with ⟨_, _, hthrow, _⟩
    exact absurd hthrow throw_ne_ok
  rename_i hnamed
  rcases bind_ok_iff.1 h with ⟨_, made, hmake, h⟩
  rcases bind_ok_iff.1 h with ⟨_, started, hstart, h⟩
  rcases bind_ok_iff.1 h with ⟨w, created, hcreate, h⟩
  rcases SessionWork.onTree_ok_iff.1 hmake with ⟨madeTree, hmakeTree, rfl⟩
  obtain rfl := SessionWork.log_ok_iff.1 hstart
  rcases createLogged_ok_iff.1 hcreate with ⟨tree, hcreateTree, rfl⟩
  rw [writeDocuments_eq] at h
  cases hdraw : drawDocuments (options.referenceTime.getD localTime) 0 count source with
  | error fault =>
    rw [hdraw] at h
    exact absurd h throw_ne_ok
  | ok drawn =>
    rcases drawn with ⟨docs, left⟩
    rw [hdraw] at h
    rcases bind_ok_iff.1 h with ⟨_, logged, hlogged, h⟩
    rcases bind_ok_iff.1 h with ⟨sizes, finished, hfinish, h⟩
    rcases bind_ok_iff.1 h with ⟨_, last, hlast, h⟩
    rcases pure_ok_iff.1 h with ⟨rfl, rfl⟩
    rcases SessionWork.onTree_ok_iff.1 hfinish with ⟨stored, hfinishTree, rfl⟩
    obtain rfl := SessionWork.log_ok_iff.1 hlast
    rw [logProgress_ok hlogged] at hfinishTree
    -- The files are those of the documents, as nothing else was written to the fresh writer.
    rcases Writer.create_ok hcreateTree with ⟨hopened, hfresh⟩
    rcases finish_addDocuments source left docs hopened hfresh with ⟨stored', hfinish', -⟩
    rcases Prod.mk.inj (hfinishTree.symm.trans hfinish') with ⟨hsizes, rfl⟩
    obtain rfl := Except.ok.inj hsizes
    rcases bind_ok_iff.1 hfinishTree with ⟨_, u, hflush, hpure⟩
    obtain ⟨-, rfl⟩ := pure_ok_iff.1 hpure
    refine ⟨Bool.eq_false_iff.2 hnamed, madeTree, tree, w, docs, left, hmakeTree, hcreateTree,
      rfl, hflush, ?_⟩
    rw [reportOf, ← rows_addDocuments source left w docs]

/--
A run that yields a report has made its directory and files, and has drawn its
documents. The files hold the documents, and the report is theirs.
-/
theorem runFrom_stores {options : Options} {localTime : DateTime} {count : Nat}
    {source : Source σ} {session session' : Session} {report : Report}
    (h : runFrom options localTime count source session = (.ok report, session')) :
    Ready options.outDir options.headers session.tree ∧ ∃ docs left,
      drawDocuments (options.referenceTime.getD localTime) 0 count source = .ok (docs, left) ∧
      report = reportOf options count docs ∧
      (filesOf options.headers docs).StoredIn options.outDir session'.tree := by
  obtain ⟨hnamed, made, opened, w, docs, left, hmake, hcreate, hdraw, hflush, hreport⟩ :=
    runFrom_ok h
  obtain ⟨hopened, hfresh⟩ := Writer.create_ok hcreate
  obtain ⟨stored, hfinish, hstored⟩ := finish_addDocuments source left docs hopened hfresh
  rw [Writer.finish_eq hflush, Prod.mk.injEq] at hfinish
  obtain ⟨-, rfl⟩ := hfinish
  exact ⟨⟨hnamed, made, opened, w, hmake, hcreate⟩, docs, left, hdraw, hreport, hstored⟩

theorem logProgress_grows (own way : Set Place) (total : Nat) (marks : List Nat) :
    Leaves (Session.Grows own way) (logProgress total marks) := by
  induction marks with
  | nil => exact Leaves.pure _
  | cons mark marks ih =>
    rw [logProgress]
    exact Leaves.bind (SessionWork.log_grows _ _ _) fun _ => ih

/--
However a run ends, it has changed its own three files and no other entry, and has
made nothing but them and directories on the way of its own.
-/
theorem runFrom_grows (options : Options) (localTime : DateTime) (count : Nat)
    (source : Source σ) (session : Session) :
    session.tree.Grows ((Paths.inDir options.outDir).places session.tree)
      (session.tree.waypoints options.outDir)
      (runFrom options localTime count source session).2.tree := by
  generalize hown : (Paths.inDir options.outDir).places session.tree = own
  generalize hway : session.tree.waypoints options.outDir = way
  show Session.Grows own way session _
  unfold runFrom
  split
  · exact refl_of (Session.Grows own way) session
  have hmake : Session.Grows own way session
      (SessionWork.onTree Error.file (FileWork.makeDirs options.outDir) session).2 :=
    SessionWork.onTree_grows (hway ▸ FileWork.makeDirs_grows own options.outDir session.tree)
  refine Leaves.bind_at hmake ?_
  intro _ made hmade
  rw [hmade] at hmake
  refine Leaves.bind_at (SessionWork.log_grows _ _ _ made) ?_
  intro _ started hstarted
  obtain rfl := SessionWork.log_ok_iff.1 hstarted
  have hplaces : (Paths.inDir options.outDir).places made.tree ⊆ own := by
    rw [Paths.places_of_home hmake.home, hown]
  have hcreates : made.tree.Grows own way
      (Writer.create (Paths.inDir options.outDir) options.headers made.tree).2 :=
    Writer.create_grows hplaces
  refine Leaves.bind_at (Leaves.tryCatch_at (SessionWork.onTree_grows hcreates) fun error =>
    Leaves.bind (SessionWork.log_grows _ _ _) fun _ => Leaves.throw _) ?_
  intro w created hcreated
  obtain ⟨tree, hcreate, rfl⟩ := createLogged_ok_iff.1 hcreated
  rw [hcreate] at hcreates
  rw [writeDocuments_eq]
  rcases drawDocuments (options.referenceTime.getD localTime) 0 count source with
    fault | ⟨docs, left⟩
  · exact refl_of (Session.Grows own way) _
  refine Leaves.bind_at (logProgress_grows own way _ _ _) ?_
  intro _ logged hlogged
  have htree : logged.tree = tree := logProgress_ok hlogged
  -- What is written meanwhile is text of the writer; its files stay open.
  have hopened := (Writer.create_ok hcreate).1.writeRows (docs.map Document.main) fun kind =>
    docs.flatMap (Document.related · kind)
  have hfinish : logged.tree.Grows own way
      (((⟨source, w, {}⟩ : Progress σ).addDocuments left docs).writer.finish logged.tree).2 := by
    rw [htree]
    refine Writer.finish_grows hopened ?_
    rw [Paths.places_of_home hcreates.home]
    exact hplaces
  refine Leaves.bind_at (SessionWork.onTree_grows hfinish) ?_
  intro sizes stored _
  exact Leaves.bind (SessionWork.log_grows _ _ _) (fun _ => Leaves.pure _) stored

/-- A run that yields a report keeps what was there, but for its three files. -/
theorem runFrom_keeps {options : Options} {localTime : DateTime} {count : Nat}
    {source : Source σ} {session session' : Session} {report : Report}
    (h : runFrom options localTime count source session = (.ok report, session')) :
    session.tree.Keeps ((Paths.inDir options.outDir).places session.tree) session'.tree := by
  have hgrows := runFrom_grows options localTime count source session
  rw [h] at hgrows
  exact hgrows.toKeeps

/-- Where the directory and the files can be made and the documents drawn, there is a report. -/
theorem exists_runFrom {options : Options} {localTime : DateTime} {count : Nat}
    {source left : Source σ} {session : Session} {docs : List Document}
    (hready : Ready options.outDir options.headers session.tree)
    (hdraw : drawDocuments (options.referenceTime.getD localTime) 0 count source =
      .ok (docs, left)) :
    ∃ session', runFrom options localTime count source session =
      (.ok (reportOf options count docs), session') := by
  rcases hready with ⟨hnamed, made, opened, w, hmake, hcreate⟩
  rcases Writer.create_ok hcreate with ⟨hopened, hfresh⟩
  rcases finish_addDocuments source left docs hopened hfresh with ⟨stored, hfinish, -⟩
  unfold runFrom
  rw [hnamed, if_neg Bool.false_ne_true]
  refine exists_bind_ok (SessionWork.onTree_ok_iff.2 ⟨made, hmake, rfl⟩) ?_
  refine exists_bind_ok ((SessionWork.log_ok_iff (u := ())).2 rfl) ?_
  refine exists_bind_ok (createLogged_ok_iff.2 ⟨opened, hcreate, rfl⟩) ?_
  rw [writeDocuments_eq, hdraw]
  rcases exists_logProgress count (progressMarks count) _ with ⟨logged, hlogged⟩
  refine exists_bind_ok hlogged ?_
  have htree : logged.tree = opened := logProgress_ok hlogged
  rw [← htree] at hfinish
  refine exists_bind_ok (SessionWork.onTree_ok_iff.2 ⟨stored, hfinish, rfl⟩) ?_
  refine exists_bind_ok ((SessionWork.log_ok_iff (u := ())).2 rfl) ?_
  refine ⟨_, pure_ok_iff.2 ⟨?_, rfl⟩⟩
  rw [reportOf, ← rows_addDocuments source left w docs]

/-! ## A source to run with -/

/-- Where making the directory and then the files succeeds, a run can begin. -/
theorem ready_of_isSome {outDir : String} {headers : Bool} {t : FileTree}
    (hnamed : outDir.isEmpty = false)
    (hmake : (FileWork.makeDirs outDir t).1.toOption.isSome = true)
    (hcreate : (Writer.create (Paths.inDir outDir) headers
      (FileWork.makeDirs outDir t).2).1.toOption.isSome = true) : Ready outDir headers t := by
  rcases hmade : FileWork.makeDirs outDir t with ⟨fault | _, made⟩
  · rw [hmade] at hmake
    cases hmake
  rw [hmade] at hcreate
  rcases hcreated : Writer.create (Paths.inDir outDir) headers made with ⟨fault | w, opened⟩
  · rw [hcreated] at hcreate
    cases hcreate
  exact ⟨hnamed, made, opened, w, hmade, hcreated⟩

/-- A run can begin where nothing is yet. -/
theorem ready_newTree (headers : Bool) : Ready "data" headers {} := by
  apply ready_of_isSome
  · decide
  · decide +kernel
  · cases headers <;> decide +kernel

/-- Midnight at the start of day 0. -/
def startOfDays : DateTime := ⟨0, 0, 0, by decide, by decide, by decide, by decide⟩

/-- Six words, one of them the greatest there is, again and again. -/
def sixWords : Source Script where
  stream := { words := #[0, 1073741824, 4294967295, 0, 1073741824, 0] }
  limit := 1000

/-- Midnight at the start of 1980, where a decade starts. -/
def startOfDecade : DateTime :=
  { startOfDays with day := daysBeforeYear 1980, day_mem := by decide }

/-- The key stream of one seed yields a document with five children and no inline document. -/
theorem exists_draw_of_42 : ∃ docs left,
    drawDocuments startOfDecade 0 1 (seededSource 42) = .ok (docs, left) ∧
      countsOf docs = ⟨1, 5, 0, 0⟩ := by
  have hok : (drawDocuments startOfDecade 0 1 (seededSource 42)).toOption.any
      (fun drawn => countsOf drawn.1 = ⟨1, 5, 0, 0⟩) = true := by
    decide +kernel
  rcases exists_ok_of_any hok with ⟨⟨docs, left⟩, hdraw, hcounts⟩
  exact ⟨docs, left, hdraw, of_decide_eq_true hcounts⟩

end LinkedDocs.Generation
