import LinkedDocs.Proofs.EffectiveOptions
import LinkedDocs.Proofs.Generated
import LinkedDocs.Proofs.Replay

/-!
# The check after a generation

A run of the program that is asked to verify its dataset reads back what it has
just written: the check has the directory and the header flag of the generation,
and the report is written to none of the three files. So the check never fails.

* `verify_stored`: the check of stored documents.
* `writeReport_keeps`: a report changes its own file.
* `conclude_stored`: what follows a generation.
* `verification_never_fails`: whole runs.
-/

namespace LinkedDocs.Command

open Dataset Generation

variable {surroundings : Surroundings} {arguments : Arguments} {options : Options}
  {report : Report} {session : Session} {docs : List Document}

/-! ## The check -/

/-- The session after the event of a check that has succeeded. -/
def noted (session : Session) (dir : String) (count : Nat) : Session :=
  let fields := [("dataset_dir", Value.string dir), ("main_rows", Value.ofNat count)]
  { session with events := ⟨.info, "dataset verified", fields⟩ :: session.events }

/--
What was done ends with a check of these contents, with the directory and the
header flag of the options. The check found nothing wrong, and all succeeded.
-/
def EndsVerified (options : Options) (c : Contents) (count : Nat)
    (outcome : Except Error Unit × Session) : Prop :=
  ∃ written result checked, c.StoredIn options.outDir written.tree ∧
    outcome = verify options written ∧
    Evaluation.run { headers := options.headers } options.outDir written =
      (.ok result, checked) ∧
    result.violationCount = 0 ∧ result.summary.mainRows = count ∧
    outcome = (.ok (), noted checked options.outDir count)

/-- A run that ends verified ends without an error. -/
theorem EndsVerified.ne_error {c : Contents} {count : Nat} {outcome : Except Error Unit × Session}
    (h : EndsVerified options c count outcome) {e : Error} {after : Session} :
    outcome ≠ (.error e, after) := by
  obtain ⟨_, _, _, -, -, -, -, -, hok⟩ := h
  rw [hok]
  intro herror
  cases herror

/-- A check of good documents that are stored succeeds. -/
theorem verify_stored (hdocs : GoodFrom GoodDocument 0 docs) (hfew : docs.length < Text.word64)
    (hstored : (filesOf options.headers docs).StoredIn options.outDir session.tree) :
    EndsVerified options (filesOf options.headers docs) docs.length (verify options session) := by
  obtain ⟨result, checked, hrun, hclean, hsummary⟩ := @evaluation_of_documents docs
    options.headers options.outDir session { headers := options.headers } hdocs hfew hstored rfl
  have hrows : result.summary.mainRows = docs.length := by rw [hsummary]
  have hdir : result.datasetDir = options.outDir := by
    obtain ⟨_, _, t, -, -, rfl, -⟩ := Evaluation.run_ok_iff.1 ⟨checked, hrun⟩
    rfl
  refine ⟨session, result, checked, hstored, rfl, hrun, hclean, hrows, ?_⟩
  unfold verify
  rw [bind_of_ok (SessionWork.within_ok_iff.2 hrun), hdir, hrows]
  rfl

/-! ## The report -/

/-- No report is written, or one that is none of the three files of the directory. -/
def ReportApart (arguments : Arguments) (dir : String) (t : FileTree) : Prop :=
  ∀ path, arguments.report = some path → t.destination path ∉ (Paths.inDir dir).places t

/-- No report is written, or its file can be written. -/
def ReportWritable (arguments : Arguments) (report : Report) (t : FileTree) : Prop :=
  ∀ path, arguments.report = some path → ∃ tree, writeReport path report t = (.ok (), tree)

/-- Whether the report is apart depends on where the paths start. -/
theorem ReportApart.of_home {dir : String} {t t' : FileTree} (h : ReportApart arguments dir t)
    (hhome : t'.home = t.home) : ReportApart arguments dir t' := by
  intro path hpath
  rw [FileTree.destination_of_home hhome, Paths.places_of_home hhome]
  exact h path hpath

/-- A report changes no file but its own. -/
theorem writeReport_keeps {path : String} {t t' : FileTree}
    (h : writeReport path report t = (.ok (), t')) :
    t.Keeps {t.destination path} t' := by
  unfold writeReport at h
  rw [bind_ok_iff] at h
  obtain ⟨_, made, hmake, hwrite⟩ := h
  have hmade := FileWork.makeParentDirs_keeps {t.destination path} path t
  rw [hmake] at hmade
  refine hmade.trans (FileWork.writeFile_keeps hwrite ?_)
  rw [FileTree.destination_of_home hmade.home]
  rfl

/-! ## What follows a generation -/

/-- Without a path for the report, only the verification is left. -/
theorem conclude_of_none (hverify : arguments.verify = true) (hreport : arguments.report = none) :
    conclude arguments options report = verify options := by
  unfold conclude
  rw [hreport, hverify]
  rfl

theorem conclude_of_some {path : String} (hverify : arguments.verify = true)
    (hreport : arguments.report = some path) :
    conclude arguments options report = (do
      SessionWork.onTree .file (writeReport path report)
      SessionWork.log .info "report written" [("path", .string path)]
      verify options) := by
  unfold conclude
  rw [hreport, hverify]
  rfl

/--
Where good documents are stored and the report is apart from them, the check does
not fail, whatever the report says; and if the report can be written, all ends
with a check that succeeds.
-/
theorem conclude_stored (hverify : arguments.verify = true)
    (hdocs : GoodFrom GoodDocument 0 docs) (hfew : docs.length < Text.word64)
    (hstored : (filesOf options.headers docs).StoredIn options.outDir session.tree)
    (hapart : ReportApart arguments options.outDir session.tree) :
    (∀ e after, conclude arguments options report session ≠ (.error (.evaluation e), after)) ∧
      (ReportWritable arguments report session.tree →
        EndsVerified options (filesOf options.headers docs) docs.length
          (conclude arguments options report session)) := by
  cases hreport : arguments.report with
  | none =>
    rw [conclude_of_none hverify hreport]
    have hends := verify_stored hdocs hfew hstored
    exact ⟨fun e after => hends.ne_error, fun _ => hends⟩
  | some path =>
    -- The report leaves the dataset as it is, so the check finds what was generated.
    have hwritten : ∀ tree, writeReport path report session.tree = (.ok (), tree) →
        EndsVerified options (filesOf options.headers docs) docs.length
          (conclude arguments options report session) := by
      intro tree hwrite
      have hothers : ∀ place ∈ (Paths.inDir options.outDir).places session.tree,
          place ∉ ({session.tree.destination path} : Set Place) := by
        rintro place hplace rfl
        exact hapart path hreport hplace
      rw [conclude_of_some hverify hreport,
        bind_of_ok (SessionWork.onTree_ok_iff.2 ⟨tree, hwrite, rfl⟩),
        bind_of_ok ((SessionWork.log_ok_iff (u := ())).2 rfl)]
      exact verify_stored hdocs hfew (hstored.of_keeps (writeReport_keeps hwrite) hothers)
    constructor
    · intro e after hfails
      have hsteps := hfails
      rw [conclude_of_some hverify hreport, bind_error_iff] at hsteps
      rcases hsteps with hreporting | ⟨_, written, hreporting, -⟩
      · obtain ⟨fault, _, -, hfile, -⟩ := SessionWork.onTree_error_iff.1 hreporting
        cases hfile
      · obtain ⟨tree, hwrite, -⟩ := SessionWork.onTree_ok_iff.1 hreporting
        exact (hwritten tree hwrite).ne_error hfails
    · intro hwritable
      obtain ⟨tree, hwrite⟩ := hwritable path hreport
      exact hwritten tree hwrite

/-! ## Whole runs -/

/-- A generation that yields a report stores good documents, as many as were asked for. -/
theorem generate_stores {loaded generated : Session}
    (h : generate surroundings arguments options loaded = (.ok report, generated)) :
    generated.tree.home = loaded.tree.home ∧ ∃ docs, docs.length = arguments.count ∧
      GoodFrom GoodDocument 0 docs ∧
      (filesOf options.headers docs).StoredIn options.outDir generated.tree := by
  obtain ⟨written, hrun, -⟩ := Generation.run_ok_iff.1 (SessionWork.within_ok_iff.1 h)
  obtain ⟨-, docs, left, hdraw, -, hstored⟩ := runFrom_stores hrun
  obtain ⟨hlength, hdocs⟩ :=
    yields_drawDocuments Evaluation.quote_notMem_loremWords _ _ _ _ _ _ hdraw
  exact ⟨(runFrom_keeps hrun).home, docs, hlength, hdocs, hstored⟩

/--
A run that is asked to verify its dataset, with a report that is none of the three
files, is never refused for the check. If the options load, the dataset is
generated and the report can be written, then the run succeeds and ends with a
check of what was generated, in the directory and with the header flag that the
arguments, the configuration file and the defaults make.
-/
theorem verification_never_fails (hverify : arguments.verify = true)
    (hcount : arguments.count < Text.word64)
    (hapart : ∀ options loaded, loadOptions arguments session = (.ok options, loaded) →
      ReportApart arguments options.outDir session.tree) :
    (∀ e after, run surroundings arguments session ≠ (.error (.evaluation e), after)) ∧
    ∀ options loaded report generated,
      loadOptions arguments session = (.ok options, loaded) →
      generate surroundings arguments options loaded = (.ok report, generated) →
      ReportWritable arguments report generated.tree →
      (∃ fields, Config.Says arguments.config session.tree fields ∧
        options.outDir = arguments.outDir.getD ((Config.outDir? fields).getD "data") ∧
        (options.headers = true ↔ arguments.headers = true ∨ Config.SetsHeaders fields)) ∧
      ∃ c, c.StoredIn options.outDir generated.tree ∧
        EndsVerified options c arguments.count (run surroundings arguments session) := by
  have hconclude : ∀ {options loaded report generated},
      loadOptions arguments session = (.ok options, loaded) →
      generate surroundings arguments options loaded = (.ok report, generated) →
      ∃ docs, docs.length = arguments.count ∧ GoodFrom GoodDocument 0 docs ∧
        (filesOf options.headers docs).StoredIn options.outDir generated.tree ∧
        ReportApart arguments options.outDir generated.tree := by
    intro options loaded report generated hload hgenerate
    obtain ⟨hhome, docs, hlength, hdocs, hstored⟩ := generate_stores hgenerate
    refine ⟨docs, hlength, hdocs, hstored, (hapart options loaded hload).of_home ?_⟩
    rw [hhome, (loadOptions_ok hload).1]
  constructor
  · intro e after hfails
    unfold run at hfails
    rcases bind_error_iff.1 hfails with hloading | ⟨options, loaded, hload, hrest⟩
    · unfold loadOptions at hloading
      rcases bind_error_iff.1 hloading with hconfig | ⟨_, _, -, hpure⟩
      · obtain ⟨_, -, hkind⟩ := SessionWork.within_error_iff.1 hconfig
        cases hkind
      · exact pure_ne_error hpure
    rcases bind_error_iff.1 hrest with hgenerating | ⟨report, generated, hgenerate, hrest⟩
    · obtain ⟨_, -, hkind⟩ := SessionWork.within_error_iff.1 hgenerating
      cases hkind
    obtain ⟨docs, hlength, hdocs, hstored, hapart⟩ := hconclude hload hgenerate
    exact (conclude_stored hverify hdocs (hlength.trans_lt hcount) hstored hapart).1 e after hrest
  · intro options loaded report generated hload hgenerate hwritable
    obtain ⟨docs, hlength, hdocs, hstored, hapart⟩ := hconclude hload hgenerate
    have hends :=
      (conclude_stored hverify hdocs (hlength.trans_lt hcount) hstored hapart).2 hwritable
    refine ⟨(loadOptions_ok hload).2, _, hstored, ?_⟩
    unfold run
    rw [bind_of_ok hload, bind_of_ok hgenerate, ← hlength]
    exact hends

/-! ## A run with a configuration file and a report -/

/-- One document, with a seed that wins over that of a configuration file. -/
def configuredArguments : Arguments where
  count := 1
  seed := some 42
  config := some "docs.toml"
  report := some "report.json"
  verify := true

/-- A configuration file and an old report. -/
def configuredTree : FileTree :=
  (({} : FileTree).set ["docs.toml"]
    (.file "out_dir = \"made\"\nheaders = true\nseed = 7\n".toByteArray)).set ["report.json"]
    (.file "\x7b\x7d".toByteArray)

/-- The options of the file with the seed of the arguments. -/
def configuredOptions : Options where
  outDir := "made"
  headers := true
  seed := some 42

theorem loadOptions_configured : ∃ loaded,
    loadOptions configuredArguments { tree := configuredTree } =
      (.ok configuredOptions, loaded) := by
  have hok : (loadOptions configuredArguments { tree := configuredTree }).1.toOption.any
      (fun options => options = configuredOptions) = true := by
    decide +kernel
  obtain ⟨options, loaded, hload, hoptions⟩ := exists_ok_of_fst_any hok
  rw [of_decide_eq_true hoptions] at hload
  exact ⟨loaded, hload⟩

theorem ready_configured : Ready "made" true configuredTree := by
  apply ready_of_isSome
  · decide
  · decide +kernel
  · decide +kernel

/-- The old report is none of the files of the dataset. -/
theorem reportApart_configured : ReportApart configuredArguments "made" configuredTree := by
  intro path hpath
  obtain rfl : "report.json" = path := Option.some.inj hpath
  have hapart : configuredTree.destination "report.json" ∉
      (Paths.inDir "made").all.map configuredTree.destination := by
    decide +kernel
  exact hapart

/-- Where work keeps the old report, a new one can be written in its place. -/
theorem reportWritable_configured {own : Set Place} {t : FileTree}
    (hkeeps : configuredTree.Keeps own t)
    (hother : configuredTree.destination "report.json" ∉ own) :
    ReportWritable configuredArguments report t := by
  intro path hpath
  obtain rfl : "report.json" = path := Option.some.inj hpath
  have hok : (FileWork.createFile "report.json" configuredTree).1.toOption.any
      (fun place => place = ["report.json"]) = true := by
    decide +kernel
  obtain ⟨place, _, hcreate, hplace⟩ := exists_ok_of_fst_any hok
  obtain ⟨hfile, -⟩ := FileWork.createFile_ok_iff.1 hcreate
  have hold : configuredTree.lookup place = some (.file "\x7b\x7d".toByteArray) := by
    unfold configuredTree
    rw [FileTree.lookup_set _ _ _ _ (by decide), if_pos (of_decide_eq_true hplace)]
  have hstill := hkeeps.lookup_file hold (hfile.place_eq ▸ hother)
  have hcreated := FileWork.createFile_ok_iff.2 ⟨hfile.of_keeps hkeeps hstill, rfl⟩
  have hparents : FileWork.makeParentDirs "report.json" t = (.ok (), t) := by
    have hparent : Path.parent? "report.json" = some "" := by decide
    unfold FileWork.makeParentDirs
    rw [hparent]
    rfl
  have hwrites : writeReport "report.json" report t =
      FileWork.fillFile place (Json.pretty report.toValue) (t.set place (.file .empty)) := by
    unfold writeReport FileWork.writeFile
    rw [bind_of_ok hparents, bind_of_ok hcreated]
  exact ⟨_, hwrites⟩

/-- A run with a file of options and a report: it is generated and verified. -/
theorem configured_run_verified :
    ∃ loaded report generated c,
      loadOptions configuredArguments { tree := configuredTree } =
        (.ok configuredOptions, loaded) ∧
      generate ⟨0, startOfDecade⟩ configuredArguments configuredOptions loaded =
        (.ok report, generated) ∧
      c.StoredIn "made" generated.tree ∧
      EndsVerified configuredOptions c 1
        (run ⟨0, startOfDecade⟩ configuredArguments { tree := configuredTree }) := by
  obtain ⟨loaded, hload⟩ := loadOptions_configured
  have htree : loaded.tree = configuredTree := (loadOptions_ok hload).1
  have hready : Ready "made" true loaded.tree := htree ▸ ready_configured
  obtain ⟨docs, left, hdraw, -⟩ := exists_draw_of_42
  obtain ⟨generated, hrun⟩ := @exists_runFrom _ _ _ configuredOptions startOfDecade 1
    (seededSource 42) left loaded docs hready hdraw
  have hgenerate : generate ⟨0, startOfDecade⟩ configuredArguments configuredOptions loaded =
      (.ok { reportOf configuredOptions 1 docs with seed := some 42 }, generated) :=
    SessionWork.within_ok_iff.2 (Generation.run_ok_iff.2 ⟨_, hrun, rfl⟩)
  have hkeeps := runFrom_keeps hrun
  rw [htree] at hkeeps
  have hwritable : ∀ report, ReportWritable configuredArguments report generated.tree :=
    fun report => reportWritable_configured hkeeps (reportApart_configured _ rfl)
  have hapart : ∀ options loaded,
      loadOptions configuredArguments { tree := configuredTree } = (.ok options, loaded) →
      ReportApart configuredArguments options.outDir configuredTree := by
    intro options loaded' hload'
    rw [hload] at hload'
    cases hload'
    exact reportApart_configured
  have hverified := @verification_never_fails ⟨0, startOfDecade⟩ configuredArguments
    { tree := configuredTree } rfl (by decide) hapart
  obtain ⟨-, c, hstored, hends⟩ := hverified.2 _ _ _ _ hload hgenerate (hwritable _)
  exact ⟨loaded, _, generated, c, hload, hgenerate, hstored, hends⟩

end LinkedDocs.Command
