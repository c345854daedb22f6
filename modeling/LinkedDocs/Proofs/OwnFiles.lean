import LinkedDocs.Proofs.Runs

/-!
# A run changes its own files only

A run puts the documents that it draws into the three files of its directory,
whatever was in them before. However it ends, nothing else is changed: every other
file keeps its bytes, nothing disappears, and nothing is new but the three files
and directories on the way to them. Where a file stands in the way of the
directory, no file is changed at all.

* `makeDirs_ok`: a directory that was made can be walked to.
* `FileTree.Blocked`: a file stands where a path has to pass.
* `outputOf`: what a run writes, told without a tree.
* `run_changes_own_files`: every run, from every tree.
-/

namespace LinkedDocs

namespace FileTree

variable {own : Set Place} {t t' : FileTree} {path : String}

/-- A walk is made of two, one after the other. -/
theorem walk_append (here : Place) (front rest : List String) :
    t.walk here (front ++ rest) = (t.walk here front >>= fun parent => t.walk parent rest) := by
  induction front generalizing here with
  | nil => rfl
  | cons name front ih =>
    by_cases hdot : name = "."
    · subst hdot
      exact ih here
    by_cases hdots : name = ".."
    · subst hdots
      exact ih here.dropLast
    rw [List.cons_append, walk.eq_4 _ _ _ _ hdot hdots, walk.eq_4 _ _ _ _ hdot hdots]
    rcases t.find? (here ++ [name]) with fault | - | ⟨bytes | -⟩
    · rfl
    · rfl
    · rfl
    · exact ih (here ++ [name])

/-- A file stands at the place of a name that the path has to pass, or at its end. -/
def Blocked (t : FileTree) (path : String) : Prop :=
  ∃ front name bytes, front ++ [name] <+: Path.steps path ∧ name ≠ "." ∧ name ≠ ".." ∧
    t.lookup ((front ++ [name]).foldl stepFrom (t.start path)) = some (.file bytes)

/-- Only directories are walked through. -/
theorem Blocked.walk_ne_ok (h : t.Blocked path) (place : Place) :
    t.walk (t.start path) (Path.steps path) ≠ .ok place := by
  intro hwalk
  obtain ⟨front, name, bytes, ⟨rest, hsteps⟩, hdot, hdots, hfile⟩ := h
  rw [← hsteps, List.append_assoc, walk_append, except_bind_ok_iff] at hwalk
  obtain ⟨parent, hfront, hrest⟩ := hwalk
  obtain ⟨hfind, -⟩ := walk_cons_ok hdot hdots hrest
  obtain ⟨hdir, -⟩ := find?_ok hfind
  have hplace : (front ++ [name]).foldl stepFrom (t.start path) = parent ++ [name] := by
    rw [List.foldl_concat, ← walk_ok hfront, stepFrom, if_neg hdot, if_neg hdots]
  rw [hplace, ← hdir] at hfile
  cases hfile

/-- A file that is in the way stays in the way. -/
theorem Blocked.of_keeps (h : t.Blocked path) (hkeeps : Keeps own t t') : t'.Blocked path := by
  obtain ⟨front, name, bytes, hfront, hdot, hdots, hfile⟩ := h
  obtain ⟨bytes', hfile', -⟩ := hkeeps.file _ bytes hfile
  refine ⟨front, name, bytes', hfront, hdot, hdots, ?_⟩
  rw [start, hkeeps.home]
  exact hfile'

end FileTree

/-! ## Directories that were made -/

namespace FileWork

open FileTree

variable {here : Place} {steps : List String} {path : String} {t t' : FileTree}

/-- After a directory is made, the steps to it can be walked. -/
theorem makeDir_ok (h : makeDir here steps t = (.ok (), t')) :
    ∃ place, t'.walk here steps = .ok place := by
  have hget : (get : FileWork FileTree) t = (.ok t, t) := rfl
  unfold makeDir at h
  rw [bind_of_ok hget] at h
  rcases hlocate : t.locate here steps with fault | place
  · rw [hlocate] at h
    exact absurd h throw_ne_ok
  rw [hlocate] at h
  rcases bind_ok_iff.1 h with ⟨entry, u, hfind, h⟩
  rw [find?_eq, Prod.mk.injEq] at hfind
  obtain ⟨hfind, rfl⟩ := hfind
  obtain ⟨hentry, hnamed⟩ := FileTree.find?_ok hfind
  rcases entry with - | entry
  · cases h
    have hgrows : Grows ∅ {place} t (t.set place .dir) := grows_set_dir hentry.symm rfl
    have hstays := hgrows.dir
    unfold locate at hlocate
    rcases hlast : steps.getLast? with - | last
    · rw [List.getLast?_eq_none_iff.1 hlast]
      exact ⟨here, rfl⟩
    obtain ⟨front, rfl⟩ := List.getLast?_eq_some_iff.1 hlast
    rw [hlast, List.dropLast_concat] at hlocate
    dsimp only at hlocate
    by_cases hdots : last = "." ∨ last = ".."
    · rw [if_pos hdots] at hlocate
      exact ⟨place, walk_of_dirsStay hstays hlocate⟩
    · -- The last step leads to the directory that is new.
      rw [if_neg hdots] at hlocate
      obtain ⟨hdot, hdots⟩ := not_or.1 hdots
      obtain ⟨parent, hparent, hplace⟩ := except_bind_ok_iff.1 hlocate
      cases hplace
      refine ⟨parent ++ [last], ?_⟩
      rw [walk_append, walk_of_dirsStay hstays hparent, ok_bind, walk.eq_4 _ _ _ _ hdot hdots,
        hnamed, lookup_set _ _ _ _ (List.append_ne_nil_of_right_ne_nil _ (List.cons_ne_nil _ _)),
        if_pos rfl]
      rfl
  · exact absurd h throw_ne_ok

theorem makeOrKeepDir_ok (h : makeOrKeepDir here steps t = (.ok (), t')) :
    ∃ place, t'.walk here steps = .ok place := by
  unfold makeOrKeepDir at h
  rw [tryCatch_eq] at h
  rcases hmake : makeDir here steps t with ⟨fault | _, u⟩
  · rw [hmake] at h
    have hget : (get : FileWork FileTree) u = (.ok u, u) := rfl
    dsimp only at h
    rw [bind_of_ok hget] at h
    by_cases hdir : u.isDir here steps
    · rw [if_pos hdir] at h
      obtain ⟨-, rfl⟩ := pure_ok_iff.1 h
      unfold isDir at hdir
      rcases hwalk : t'.walk here steps with fault | place
      · rw [hwalk] at hdir
        cases hdir
      · exact ⟨place, rfl⟩
    · rw [if_neg hdir] at h
      exact absurd h throw_ne_ok
  · rw [hmake] at h
    cases h
    exact makeDir_ok hmake

/-- A directory that was made is there: its path can be walked. -/
theorem makeDirs_ok (h : makeDirs path t = (.ok (), t')) :
    ∃ place, t'.walk (t.start path) (Path.steps path) = .ok place := by
  unfold makeDirs at h
  by_cases hempty : path.isEmpty
  · have hsteps : Path.steps "" = [] := by decide
    rw [String.isEmpty_iff.1 hempty, hsteps]
    exact ⟨_, rfl⟩
  rw [if_neg hempty] at h
  rcases bind_ok_iff.1 h with ⟨_, u, hcheck, hmake⟩
  obtain ⟨rfl, -⟩ := checkPath_ok hcheck
  have hget : (get : FileWork FileTree) u = (.ok u, u) := rfl
  rw [bind_of_ok hget, tryCatch_eq] at hmake
  rcases hfirst : makeOrKeepDir (u.start path) (Path.steps path) u with ⟨fault | _, v⟩
  · rw [hfirst] at hmake
    dsimp only at hmake
    by_cases hmissing : fault = .notFound
    · rw [if_pos hmissing] at hmake
      rcases bind_ok_iff.1 hmake with ⟨_, _, -, hsecond⟩
      exact makeOrKeepDir_ok hsecond
    · rw [if_neg hmissing] at hmake
      exact absurd hmake throw_ne_ok
  · rw [hfirst] at hmake
    cases hmake
    exact makeOrKeepDir_ok hfirst

/-- No directory is made where a file is in the way. -/
theorem makeDirs_ne_ok (h : t.Blocked path) : makeDirs path t ≠ (.ok (), t') := by
  intro hmade
  have hkeeps : Keeps ∅ t t' := by
    have hgrows := makeDirs_grows ∅ path t
    rw [hmade] at hgrows
    exact hgrows.toKeeps
  have hstart : t'.start path = t.start path := by
    rw [start, start, hkeeps.home]
  obtain ⟨place, hwalk⟩ := makeDirs_ok hmade
  rw [← hstart] at hwalk
  exact (h.of_keeps hkeeps).walk_ne_ok place hwalk

end FileWork

/-! ## Runs -/

namespace Generation

open Dataset Calendar LinkedDocs.Random

variable {σ : Type} [WordStream σ] [Lexicon σ]

/--
What a run writes: the files of the documents that are drawn from the source, up
to the time of reference, with header rows if asked for.
-/
def outputOf (reference : DateTime) (headers : Bool) (count : Nat) (source : Source σ) :
    Option Contents :=
  (drawDocuments reference 0 count source).toOption.map fun drawn => filesOf headers drawn.1

/-- A run that succeeds has written the output of its draws, and reports its size. -/
theorem runFrom_output {options : Options} {localTime : DateTime} {count : Nat}
    {source : Source σ} {session session' : Session} {report : Report}
    (h : runFrom options localTime count source session = (.ok report, session')) :
    ∃ c, outputOf (options.referenceTime.getD localTime) options.headers count source = some c ∧
      c.StoredIn options.outDir session'.tree ∧
      report.bytesWritten = c.main.size + c.child.size + c.inline.size := by
  obtain ⟨-, docs, left, hdraw, rfl, hstored⟩ := runFrom_stores h
  refine ⟨filesOf options.headers docs, ?_, hstored, rfl⟩
  rw [outputOf, hdraw]
  rfl

/-- Without a directory there is no run; nothing is changed but directories that were missing. -/
theorem runFrom_without_dir {options : Options} (localTime : DateTime) (count : Nat)
    (source : Source σ) {session : Session}
    (h : options.outDir.isEmpty ∨ session.tree.Blocked options.outDir) :
    (∃ error, (runFrom options localTime count source session).1 = .error error) ∧
      session.tree.Grows ∅ (session.tree.waypoints options.outDir)
        (runFrom options localTime count source session).2.tree := by
  unfold runFrom
  split
  · exact ⟨⟨_, rfl⟩, FileTree.Grows.refl _ _ _⟩
  rename_i hempty
  have hblocked := h.resolve_left hempty
  have hgrows := FileWork.makeDirs_grows ∅ options.outDir session.tree
  rcases hmake : FileWork.makeDirs options.outDir session.tree with ⟨fault | _, made⟩
  · rw [hmake] at hgrows
    have hfails : SessionWork.onTree Error.file (FileWork.makeDirs options.outDir) session =
        (.error (.file fault), { session with tree := made }) :=
      SessionWork.onTree_error_iff.2 ⟨fault, made, hmake, rfl, rfl⟩
    dsimp only
    rw [bind_error_iff.2 (.inl hfails)]
    exact ⟨⟨_, rfl⟩, hgrows⟩
  · exact absurd hmake (FileWork.makeDirs_ne_ok hblocked)

/--
Whatever the tree is: a run that yields a report has put into its three files what
the number of documents, the source, the end of the dates and the choice of header
rows tell, and has counted the bytes of all three. However a run ends, the entries
of the tree are as they were, but for the bytes of the three files; what is new is
one of them, or a directory on the way of its own. And where the directory has no
name, or a file stands where it or one of those above it should be, the run fails
and no file is changed.
-/
theorem run_changes_own_files (options : Options) (localTime : DateTime) (count : Nat)
    (source : Source σ) (session : Session) :
    (∀ report stop, runFrom options localTime count source session = (.ok report, stop) →
      ∃ c, outputOf (options.referenceTime.getD localTime) options.headers count source =
          some c ∧
        c.StoredIn options.outDir stop.tree ∧
        report.bytesWritten = c.main.size + c.child.size + c.inline.size) ∧
    session.tree.Grows ((Paths.inDir options.outDir).places session.tree)
      (session.tree.waypoints options.outDir)
      (runFrom options localTime count source session).2.tree ∧
    (options.outDir.isEmpty ∨ session.tree.Blocked options.outDir →
      (∃ error, (runFrom options localTime count source session).1 = .error error) ∧
      session.tree.Grows ∅ (session.tree.waypoints options.outDir)
        (runFrom options localTime count source session).2.tree) := by
  refine ⟨?_, runFrom_grows options localTime count source session, ?_⟩
  · intro report stop hrun
    exact runFrom_output hrun
  · intro h
    exact runFrom_without_dir localTime count source h

/-! ## A directory that was in use -/

/-- A directory with an old dataset file, longer than a new one, and a file of someone else. -/
def usedTree : FileTree :=
  ((({} : FileTree).set ["data"] .dir).set ["data", "main_doc.csv"]
    (.file ⟨Array.replicate 10000 7⟩)).set ["data", "notes.txt"] (.file ⟨#[1, 2, 3]⟩)

/-- The tree with a dataset and a note is ready for a run. -/
theorem ready_usedTree : Ready "data" false usedTree := by
  apply ready_of_isSome
  · decide
  · decide +kernel
  · decide +kernel

/--
A run in the directory replaces the old file, and the notes stay as they are; a run
below the notes fails, and leaves both as they are.
-/
theorem notes_outlast_runs :
    (∃ report stop c,
      runFrom {} startOfDecade 1 (seededSource 42) { tree := usedTree } = (.ok report, stop) ∧
      outputOf startOfDecade false 1 (seededSource 42) = some c ∧ c.StoredIn "data" stop.tree ∧
      report.bytesWritten = c.main.size + c.child.size + c.inline.size ∧
      stop.tree.lookup ["data", "notes.txt"] = some (.file ⟨#[1, 2, 3]⟩)) ∧
    usedTree.Blocked "data/notes.txt/more" ∧
    (∃ error, (runFrom { outDir := "data/notes.txt/more" } startOfDecade 1 (seededSource 42)
      { tree := usedTree }).1 = .error error) ∧
    (runFrom { outDir := "data/notes.txt/more" } startOfDecade 1 (seededSource 42)
      { tree := usedTree }).2.tree.lookup ["data", "main_doc.csv"] =
        some (.file ⟨Array.replicate 10000 7⟩) := by
  have hnotes : usedTree.lookup ["data", "notes.txt"] = some (.file ⟨#[1, 2, 3]⟩) := by
    unfold usedTree
    rw [FileTree.lookup_set _ _ _ _ (by decide), if_pos rfl]
  have hold : usedTree.lookup ["data", "main_doc.csv"] =
      some (.file ⟨Array.replicate 10000 7⟩) := by
    unfold usedTree
    rw [FileTree.lookup_set _ _ _ _ (by decide), if_neg (by decide),
      FileTree.lookup_set _ _ _ _ (by decide), if_pos rfl]
  have hapart : ["data", "notes.txt"] ∉ (Paths.inDir "data").all.map usedTree.destination := by
    decide +kernel
  have hblocked : usedTree.Blocked "data/notes.txt/more" := by
    refine ⟨["data"], "notes.txt", ⟨#[1, 2, 3]⟩, by decide +kernel, by decide, by decide, ?_⟩
    have hplace : (["data"] ++ ["notes.txt"]).foldl FileTree.stepFrom
        (usedTree.start "data/notes.txt/more") = ["data", "notes.txt"] := by
      decide +kernel
    rw [hplace, hnotes]
  obtain ⟨docs, left, hdraw, -⟩ := exists_draw_of_42
  obtain ⟨stop, hrun⟩ := @exists_runFrom _ _ _ {} startOfDecade 1 (seededSource 42) left
    { tree := usedTree } docs ready_usedTree hdraw
  obtain ⟨houtput, hgrows, -⟩ := run_changes_own_files {} startOfDecade 1 (seededSource 42)
    { tree := usedTree }
  obtain ⟨c, hc, hstored, hbytes⟩ := houtput _ stop hrun
  rw [hrun] at hgrows
  obtain ⟨-, -, hfails⟩ := run_changes_own_files { outDir := "data/notes.txt/more" } startOfDecade
    1 (seededSource 42) { tree := usedTree }
  obtain ⟨herror, hleft⟩ := hfails (.inr hblocked)
  exact ⟨⟨_, stop, c, hrun, hc, hstored, hbytes, hgrows.lookup_file hnotes hapart⟩, hblocked,
    herror, hleft.lookup_file hold (Set.notMem_empty _)⟩

end Generation

end LinkedDocs
