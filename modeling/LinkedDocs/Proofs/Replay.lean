import LinkedDocs.Proofs.Runs

/-!
# A reported seed reproduces its run

A run with the key stream of a seed reports that seed. Another run with it, with
as many documents, the same choice of header rows and the same end of the dates,
draws the same documents; so its files are the same and so are its counts,
wherever its directory and files can be made.

A run with a source of one's own passes on the seed of the options, whatever the
source is; and without a time of reference the end of the dates is the local time.

* `run_ok_iff`: a run with a seed is a run with its key stream.
* `reported_seed_reproduces_run`: the two runs.
* `seed_without_source_or_time`: a seed alone does not tell the files.
-/

namespace LinkedDocs.Generation

open Dataset Calendar LinkedDocs.Random

variable {options options' : Options} {surroundings surroundings' : Surroundings}
  {count seed : Nat} {start stop start' : Session} {report : Report}

/-- A run with a seed is a run with the key stream of the seed, which is then reported. -/
theorem run_ok_iff :
    run options surroundings count start = (.ok report, stop) ↔
      ∃ written, runFrom options surroundings.localTime count
          (seededSource (options.seed.getD surroundings.freshSeed)) start = (.ok written, stop) ∧
        report = { written with seed := some (options.seed.getD surroundings.freshSeed) } := by
  unfold run
  rw [bind_ok_iff]
  constructor
  · rintro ⟨written, u, hrun, hpure⟩
    rcases pure_ok_iff.1 hpure with ⟨rfl, rfl⟩
    exact ⟨written, hrun, rfl⟩
  · rintro ⟨written, hrun, rfl⟩
    exact ⟨written, stop, hrun, rfl⟩

/-- Whichever way a run takes the key stream of the seed that it reports, it draws from that. -/
theorem exists_draw_of_seed
    (hrun : run options surroundings count start = (.ok report, stop) ∨
      runFrom options surroundings.localTime count (seededSource seed) start = (.ok report, stop))
    (hseed : report.seed = some seed) :
    Ready options.outDir options.headers start.tree ∧ ∃ docs left,
      drawDocuments (options.referenceTime.getD surroundings.localTime) 0 count
        (seededSource seed) = .ok (docs, left) ∧
      report = { reportOf options count docs with seed := some seed } ∧
      (filesOf options.headers docs).StoredIn options.outDir stop.tree := by
  rcases hrun with hrun | hrun
  · rcases run_ok_iff.1 hrun with ⟨written, hwritten, rfl⟩
    obtain rfl := Option.some.inj hseed
    rcases runFrom_stores hwritten with ⟨hready, docs, left, hdraw, rfl, hstored⟩
    exact ⟨hready, docs, left, hdraw, rfl, hstored⟩
  · rcases runFrom_stores hrun with ⟨hready, docs, left, hdraw, rfl, hstored⟩
    refine ⟨hready, docs, left, hdraw, ?_, hstored⟩
    rw [← hseed]

/--
A run that took the key stream of the seed that it reports could make its
directory and files. Wherever that can be done, another run with this seed, as
many documents, the same choice of header rows and the same end of the dates
yields a report; its files are, byte for byte, those of the first run, and its
counts are the same.
-/
theorem reported_seed_reproduces_run
    (hrun : run options surroundings count start = (.ok report, stop) ∨
      runFrom options surroundings.localTime count (seededSource seed) start = (.ok report, stop))
    (hseed : report.seed = some seed) :
    Ready options.outDir options.headers start.tree ∧
    ∀ (options' : Options) (surroundings' : Surroundings) (start' : Session),
      options'.seed = some seed →
      options'.headers = options.headers →
      options'.referenceTime.getD surroundings'.localTime =
        options.referenceTime.getD surroundings.localTime →
      Ready options'.outDir options'.headers start'.tree →
      ∃ (report' : Report) (stop' : Session) (c : Contents),
        run options' surroundings' count start' = (.ok report', stop') ∧
        c.StoredIn options.outDir stop.tree ∧ c.StoredIn options'.outDir stop'.tree ∧
        report'.seed = report.seed ∧ report'.count = report.count ∧
        report'.rows = report.rows ∧ report'.bytesWritten = report.bytesWritten := by
  rcases exists_draw_of_seed hrun hseed with ⟨hready, docs, left, hdraw, rfl, hstored⟩
  refine ⟨hready, ?_⟩
  intro options' surroundings' start' hseed' hheaders htime hready'
  rw [← htime] at hdraw
  rcases exists_runFrom hready' hdraw with ⟨stop', hrun'⟩
  rcases runFrom_stores hrun' with ⟨-, docs', left', hdraw', -, hstored'⟩
  rw [hdraw] at hdraw'
  cases hdraw'
  have hagain : options'.seed.getD surroundings'.freshSeed = seed := by
    rw [hseed']
    rfl
  rw [← hagain] at hrun'
  rw [hheaders] at hstored'
  refine ⟨_, stop', _, run_ok_iff.2 ⟨_, hrun', rfl⟩, hstored, hstored', ?_, rfl, rfl, ?_⟩
  · rw [hagain]
  · show (filesOf options'.headers docs).sizes.total = (filesOf options.headers docs).sizes.total
    rw [hheaders]

/-! ## A run and another one with its seed -/

/-- Midnight at the start of 1990. -/
def startOfNextDecade : DateTime :=
  { startOfDays with day := daysBeforeYear 1990, day_mem := by decide }

/-- A run with a fresh seed, and another one that is given the seed and the time. -/
theorem fresh_seed_reproduced :
    ∃ report stop, run {} ⟨42, startOfDecade⟩ 1 { tree := {} } = (.ok report, stop) ∧
      report.seed = some 42 ∧ Ready "data" false {} ∧
      ∃ (report' : Report) (stop' : Session) (c : Contents),
        run { seed := some 42, referenceTime := some startOfDecade } ⟨7, startOfNextDecade⟩ 1
          { tree := {} } = (.ok report', stop') ∧
        c.StoredIn "data" stop.tree ∧ c.StoredIn "data" stop'.tree ∧
        report'.seed = report.seed ∧ report'.count = report.count ∧
        report'.rows = report.rows ∧ report'.bytesWritten = report.bytesWritten := by
  rcases exists_draw_of_42 with ⟨docs, left, hdraw, -⟩
  rcases @exists_runFrom _ _ _ {} startOfDecade 1 (seededSource 42) left { tree := {} } docs
    (ready_newTree false) hdraw with ⟨stop, hrun⟩
  have hrun' : run {} ⟨42, startOfDecade⟩ 1 { tree := {} } =
      (.ok { reportOf {} 1 docs with seed := some 42 }, stop) :=
    run_ok_iff.2 ⟨_, hrun, rfl⟩
  rcases reported_seed_reproduces_run (.inl hrun') rfl with ⟨hready, hagain⟩
  exact ⟨_, stop, hrun', rfl, hready, hagain
    { seed := some 42, referenceTime := some startOfDecade } ⟨7, startOfNextDecade⟩
    { tree := {} } rfl rfl rfl (ready_newTree false)⟩

/-! ## What a seed does not tell -/

/-- The document with another date. -/
def Document.dated (date : DateTime) (d : Document) : Document :=
  { d with main := { d.main with date := date.toRow } }

/-- The date can only be the start of the decade. -/
def StartsDecade (reference : DateTime) : Prop :=
  reference.decadeStart.secondsUntil reference ≤ 0

instance (reference : DateTime) : Decidable (StartsDecade reference) :=
  inferInstanceAs (Decidable (_ ≤ _))

section

variable {σ : Type} [WordStream σ] [Lexicon σ] {early late : DateTime}

/-- Where a decade starts, nothing is drawn for a date, and nothing else depends on the time. -/
theorem drawDocument_dated (hearly : StartsDecade early) (hlate : StartsDecade late)
    (index : Nat) :
    (drawDocument late index : Draw σ Document) =
      Document.dated late.decadeStart <$> drawDocument early index := by
  have hearly' : early.decadeStart.secondsUntil early ≤ 0 := hearly
  have hlate' : late.decadeStart.secondsUntil late ≤ 0 := hlate
  unfold drawDocument Generator.mainRecord Sample.dateTimeBetween
  simp only [hearly', hlate', if_true, pure_bind, bind_assoc, map_bind, map_pure]
  rfl

/-- Documents drawn at the starts of two decades are the same but for their dates. -/
theorem drawDocuments_dated (hearly : StartsDecade early) (hlate : StartsDecade late)
    (index n : Nat) :
    (drawDocuments late index n : Draw σ (List Document)) =
      List.map (Document.dated late.decadeStart) <$> drawDocuments early index n := by
  induction n generalizing index with
  | zero =>
    rw [drawDocuments, drawDocuments, map_pure]
    rfl
  | succ n ih =>
    rw [drawDocuments, drawDocuments, ih, drawDocument_dated hearly hlate]
    simp only [map_bind, map_pure, bind_map_left, List.map_cons]

end

/-- Files with header rows tell the dates of their documents. -/
theorem filesOf_dated_ne {docs : List Document} {date date' : DateTime} (hne : docs ≠ [])
    (hdates : date.toRow ≠ date'.toRow) :
    filesOf true (docs.map (Document.dated date)) ≠
      filesOf true (docs.map (Document.dated date')) := by
  intro heq
  have hmark : ∀ docs : List Document, Unmarked true (docs.map Document.main) fun kind =>
      docs.flatMap (Document.related · kind) :=
    fun docs =>
      ⟨fun hheaders => Bool.noConfusion hheaders, fun hheaders => Bool.noConfusion hheaders⟩
  have hrows := (holds_ofRecords (hmark (docs.map (Document.dated date))) "data").main
  have hrows' := (holds_ofRecords (hmark (docs.map (Document.dated date'))) "data").main
  unfold filesOf at heq
  rw [heq, hrows'] at hrows
  have hsame := List.map_injective_iff.2 ok_injective hrows
  cases docs with
  | nil => exact hne rfl
  | cons d docs =>
    have hfirst := congrArg MainRow.date (List.cons.inj hsame).1
    exact hdates hfirst.symm

/--
The seed of the options is reported also for a source of one's own, which may
yield other rows than the key stream of the seed; and without a time of reference
the key stream of one seed yields other dates at another time.
-/
theorem seed_without_source_or_time :
    (∃ report stop report' stop',
      runFrom { seed := some 42 } startOfDecade 1 sixWords { tree := {} } = (.ok report, stop) ∧
      report.seed = some 42 ∧
      run { seed := some 42 } ⟨0, startOfDecade⟩ 1 { tree := {} } = (.ok report', stop') ∧
      report'.rows ≠ report.rows) ∧
    ∃ report stop report' stop', ∃ c c' : Contents,
      run { headers := true, seed := some 42 } ⟨0, startOfDecade⟩ 1 { tree := {} } =
        (.ok report, stop) ∧
      report.seed = some 42 ∧
      run { headers := true, seed := some 42 } ⟨0, startOfNextDecade⟩ 1 { tree := {} } =
        (.ok report', stop') ∧
      c.StoredIn "data" stop.tree ∧ c'.StoredIn "data" stop'.tree ∧ c' ≠ c := by
  rcases exists_draw_of_42 with ⟨docs, left, hdraw, hcounts⟩
  constructor
  · -- six words again and again yield an inline document
    have hok : (drawDocuments startOfDecade 0 1 sixWords).toOption.any
        (fun drawn => (countsOf drawn.1).inline = 1) = true := by
      decide +kernel
    rcases exists_ok_of_any hok with ⟨⟨others, left'⟩, hothers, hinline⟩
    rcases @exists_runFrom _ _ _ { seed := some 42 } startOfDecade 1 sixWords left' { tree := {} }
      others (ready_newTree false) hothers with ⟨stop, hrun⟩
    rcases @exists_runFrom _ _ _ { seed := some 42 } startOfDecade 1 (seededSource 42) left
      { tree := {} } docs (ready_newTree false) hdraw with ⟨stop', hrun'⟩
    refine ⟨_, stop, _, stop', hrun, rfl, run_ok_iff.2 ⟨_, hrun', rfl⟩, ?_⟩
    intro hrows
    have hzero : (countsOf docs).inline = 0 := by rw [hcounts]
    have hone : (countsOf others).inline = 1 := of_decide_eq_true hinline
    have heq : (countsOf docs).inline = (countsOf others).inline := congrArg RowCounts.inline hrows
    omega
  · -- at the start of another decade the same documents are drawn, with another date
    have hstart : StartsDecade startOfDecade := by decide
    have hdated : ∀ late, StartsDecade late → drawDocuments late 0 1 (seededSource 42) =
        .ok (docs.map (Document.dated late.decadeStart), left) := by
      intro late hlate
      rw [drawDocuments_dated hstart hlate]
      exact Draw.map_of_ok _ hdraw
    have hne : docs ≠ [] := by
      rintro rfl
      exact absurd (congrArg RowCounts.main hcounts) (by decide)
    rcases @exists_runFrom _ _ _ { headers := true, seed := some 42 } startOfDecade 1
      (seededSource 42) left { tree := {} } _ (ready_newTree true) (hdated _ hstart) with
      ⟨stop, hrun⟩
    rcases @exists_runFrom _ _ _ { headers := true, seed := some 42 } startOfNextDecade 1
      (seededSource 42) left { tree := {} } _ (ready_newTree true) (hdated _ (by decide)) with
      ⟨stop', hrun'⟩
    rcases runFrom_stores hrun with ⟨-, written, _, hwritten, -, hstored⟩
    rcases runFrom_stores hrun' with ⟨-, written', _, hwritten', -, hstored'⟩
    cases (hdated _ hstart).symm.trans hwritten
    cases (hdated startOfNextDecade (by decide)).symm.trans hwritten'
    exact ⟨_, stop, _, stop', _, _, run_ok_iff.2 ⟨_, hrun, rfl⟩, rfl,
      run_ok_iff.2 ⟨_, hrun', rfl⟩, hstored, hstored', filesOf_dated_ne hne (by decide)⟩

end LinkedDocs.Generation
