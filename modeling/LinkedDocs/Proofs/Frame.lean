import LinkedDocs.Proofs.Stored
import Mathlib.Data.Set.Basic

/-!
# What work on files leaves as it was

Work on a tree, whether it succeeds or fails, changes the bytes of its own files
and nothing else that was there: directories stay directories, files stay files,
and what is new stands where nothing stood, as a file of one's own or as a
directory on the way to it.

* `Leaves`: work by the states that it leaves, with a rule for each way to build it.
* `FileTree.Keeps`, `FileTree.Grows`: a tree that changed in its own places only,
  and one that has got nothing new elsewhere.
* `makeDirs_grows`: directories are made on the way of a path, without a loss.
* `Writer.create_grows`, `Writer.finish_grows`: a writer changes its own files,
  also where it cannot be created.
* `StoredIn.of_keeps`: a dataset outlasts work on other files.
-/

namespace LinkedDocs

/-! ## Work and the states that it leaves -/

/-- Whether it succeeds or fails, the work leaves a state related to the one that it met. -/
def Leaves {ε τ α : Type} (R : τ → τ → Prop) (work : ExceptT ε (StateM τ) α) : Prop :=
  ∀ s, R s (work s).2

namespace Leaves

section

variable {ε τ α : Type} {R : τ → τ → Prop} [Std.Refl R]

theorem pure (a : α) : Leaves R (pure a : ExceptT ε (StateM τ) α) := fun s => refl_of R s

theorem throw (e : ε) : Leaves R (throw e : ExceptT ε (StateM τ) α) := fun s => refl_of R s

theorem get : Leaves R (get : ExceptT ε (StateM τ) τ) := fun s => refl_of R s

end

section

variable {ε τ α β : Type} {R : τ → τ → Prop} [IsTrans τ R]

/-- A step that fails leaves what it leaves; otherwise the next one goes on from there. -/
theorem bind_at {x : ExceptT ε (StateM τ) α} {f : α → ExceptT ε (StateM τ) β} {s : τ}
    (hx : R s (x s).2) (hf : ∀ a t, x s = (.ok a, t) → R t (f a t).2) : R s ((x >>= f) s).2 := by
  rcases hrun : x s with ⟨e | a, t⟩
  · rw [hrun] at hx
    have hfails : (x >>= f) s = (.error e, t) := bind_error_iff.2 (.inl hrun)
    rw [hfails]
    exact hx
  · rw [hrun] at hx
    rw [bind_of_ok hrun]
    exact trans_of R hx (hf a t hrun)

/-- Two steps leave what each of them leaves. -/
theorem bind {x : ExceptT ε (StateM τ) α} {f : α → ExceptT ε (StateM τ) β} (hx : Leaves R x)
    (hf : ∀ a, Leaves R (f a)) : Leaves R (x >>= f) :=
  fun s => bind_at (hx s) fun a t _ => hf a t

/-- Work that is watched leaves what it leaves, or what the handler makes of that. -/
theorem tryCatch_at {x : ExceptT ε (StateM τ) α} {handler : ε → ExceptT ε (StateM τ) α} {s : τ}
    (hx : R s (x s).2) (hhandler : ∀ e, Leaves R (handler e)) :
    R s (tryCatch x handler s : Except ε α × τ).2 := by
  rw [tryCatch_eq]
  rcases hrun : x s with ⟨e | a, t⟩
  · rw [hrun] at hx
    exact trans_of R hx (hhandler e t)
  · rw [hrun] at hx
    exact hx

/-- What is left by the work and by its handler is left by the work with the handler. -/
theorem tryCatch {x : ExceptT ε (StateM τ) α} {handler : ε → ExceptT ε (StateM τ) α}
    (hx : Leaves R x) (hhandler : ∀ e, Leaves R (handler e)) :
    Leaves R (tryCatch x handler : ExceptT ε (StateM τ) α) :=
  fun s => tryCatch_at (hx s) hhandler

end

end Leaves

/-! ## Trees that changed in places of their own -/

namespace FileTree

variable {own way : Set Place} {t t' u : FileTree} {place : Place}

/--
What stood in the first tree stands in the second: a directory is a directory,
and a file is a file, with the same bytes unless the place is one's own.
-/
structure Keeps (own : Set Place) (t t' : FileTree) : Prop where
  home : t'.home = t.home
  dir : t.DirsStay t'
  file : ∀ place bytes, t.lookup place = some (.file bytes) →
    ∃ bytes', t'.lookup place = some (.file bytes') ∧ (place ∉ own → bytes' = bytes)

theorem Keeps.refl (own : Set Place) (t : FileTree) : Keeps own t t :=
  ⟨rfl, fun _ hdir => hdir, fun _ bytes hfile => ⟨bytes, hfile, fun _ => rfl⟩⟩

/-- What two steps keep, both keep together. -/
theorem Keeps.trans (h : Keeps own t u) (h' : Keeps own u t') : Keeps own t t' := by
  constructor
  · rw [h'.home, h.home]
  · intro place hdir
    exact h'.dir place (h.dir place hdir)
  · intro place bytes hfile
    obtain ⟨middle, hmiddle, hsame⟩ := h.file place bytes hfile
    obtain ⟨bytes', hfile', hsame'⟩ := h'.file place middle hmiddle
    exact ⟨bytes', hfile', fun hother => (hsame' hother).trans (hsame hother)⟩

instance (own : Set Place) : Std.Refl (Keeps own) := ⟨Keeps.refl own⟩

instance (own : Set Place) : IsTrans FileTree (Keeps own) := ⟨fun _ _ _ => Keeps.trans⟩

/-- A file at a place that is not one's own is still there. -/
theorem Keeps.lookup_file (h : Keeps own t t') {bytes : ByteArray}
    (hfile : t.lookup place = some (.file bytes)) (hother : place ∉ own) :
    t'.lookup place = some (.file bytes) := by
  obtain ⟨bytes', hfile', hsame⟩ := h.file place bytes hfile
  rw [hfile', hsame hother]

/--
The second tree keeps what stood in the first, and what is new in it is a file at
a place of one's own or a directory on the way.
-/
structure Grows (own way : Set Place) (t t' : FileTree) : Prop extends Keeps own t t' where
  new : ∀ place entry, t.lookup place = none → t'.lookup place = some entry →
    (entry = .dir ∧ place ∈ way) ∨ ∃ bytes, entry = .file bytes ∧ place ∈ own

theorem Grows.refl (own way : Set Place) (t : FileTree) : Grows own way t t := by
  refine ⟨Keeps.refl own t, ?_⟩
  intro place entry hnone hsome
  rw [hnone] at hsome
  cases hsome

/-- Two steps that grow a tree grow it together. -/
theorem Grows.trans (h : Grows own way t u) (h' : Grows own way u t') : Grows own way t t' := by
  refine ⟨h.toKeeps.trans h'.toKeeps, ?_⟩
  intro place entry hnone hsome
  rcases hmiddle : u.lookup place with - | middle
  · exact h'.new place entry hmiddle hsome
  · -- What was new in between is still there as what it was.
    rcases h.new place middle hnone hmiddle with ⟨rfl, hway⟩ | ⟨bytes, rfl, hown⟩
    · rw [h'.dir place hmiddle] at hsome
      cases hsome
      exact .inl ⟨rfl, hway⟩
    · obtain ⟨bytes', hfile, -⟩ := h'.file place bytes hmiddle
      rw [hfile] at hsome
      cases hsome
      exact .inr ⟨bytes', rfl, hown⟩

instance (own way : Set Place) : Std.Refl (Grows own way) := ⟨Grows.refl own way⟩

instance (own way : Set Place) : IsTrans FileTree (Grows own way) := ⟨fun _ _ _ => Grows.trans⟩

/-- Where nothing stood, a directory on the way takes nothing away. -/
theorem grows_set_dir (hnew : t.lookup place = none) (hway : place ∈ way) :
    Grows own way t (t.set place .dir) := by
  have hne : place ≠ [] := by
    rintro rfl
    cases hnew
  have hstays : ∀ other standing, t.lookup other = some standing →
      (t.set place .dir).lookup other = some standing := by
    intro other standing hstanding
    have hother : other ≠ place := by
      rintro rfl
      rw [hnew] at hstanding
      cases hstanding
    rw [lookup_set _ _ _ _ hne, if_neg hother, hstanding]
  refine ⟨⟨rfl, fun other hdir => hstays other _ hdir,
    fun other bytes hfile => ⟨bytes, hstays other _ hfile, fun _ => rfl⟩⟩, ?_⟩
  intro other entry hnone hsome
  rw [lookup_set _ _ _ _ hne] at hsome
  by_cases heq : other = place
  · rw [if_pos heq] at hsome
    cases hsome
    exact .inl ⟨rfl, heq ▸ hway⟩
  · rw [if_neg heq, hnone] at hsome
    cases hsome

/-- Where no directory stands, a file can be put into a place of one's own. -/
theorem grows_set_file (hdir : t.lookup place ≠ some .dir) (hown : place ∈ own)
    (bytes : ByteArray) : Grows own way t (t.set place (.file bytes)) := by
  have hne : place ≠ [] := by
    rintro rfl
    exact hdir rfl
  have hother : ∀ other, other ≠ place →
      (t.set place (.file bytes)).lookup other = t.lookup other := by
    intro other heq
    rw [lookup_set _ _ _ _ hne, if_neg heq]
  have hput : (t.set place (.file bytes)).lookup place = some (.file bytes) := by
    rw [lookup_set _ _ _ _ hne, if_pos rfl]
  refine ⟨⟨rfl, ?_, ?_⟩, ?_⟩
  · intro other hstanding
    rw [hother other fun heq => hdir (heq ▸ hstanding), hstanding]
  · intro other old hold
    by_cases heq : other = place
    · exact ⟨bytes, heq ▸ hput, fun hforeign => absurd (heq ▸ hown) hforeign⟩
    · exact ⟨old, (hother other heq).trans hold, fun _ => rfl⟩
  · intro other entry hnone hsome
    by_cases heq : other = place
    · rw [heq, hput] at hsome
      cases hsome
      exact .inr ⟨bytes, rfl, heq ▸ hown⟩
    · rw [hother other heq, hnone] at hsome
      cases hsome

/-- Storing a file at one of the own places adds no other entry. -/
theorem FileAt.grows {path : String} (h : t.FileAt path place) (hown : t.destination path ∈ own)
    (bytes : ByteArray) : Grows own way t (t.set place (.file bytes)) :=
  grows_set_file h.not_dir (h.place_eq ▸ hown) bytes

/-- A file is found by its path as long as it is there. -/
theorem FileAt.of_keeps {path : String} (h : t.FileAt path place) (hkeeps : Keeps own t t')
    {bytes : ByteArray} (hfile : t'.lookup place = some (.file bytes)) : t'.FileAt path place where
  usable := h.usable
  ne_empty := h.ne_empty
  located := by
    rw [start, hkeeps.home]
    exact locate_of_dirsStay hkeeps.dir h.located
  no_slash := h.no_slash
  named := h.named
  not_dir := by
    rw [hfile]
    intro hdir
    cases hdir

end FileTree

/-! ## The way of a path -/

namespace Path

/-- No segment of a path holds a slash. -/
theorem not_mem_of_mem_segments {path : String} {segment : List Char}
    (h : segment ∈ segments path) : '/' ∉ segment := by
  unfold segments at h
  generalize path.toList = chars at h
  induction chars generalizing segment with
  | nil =>
    rw [List.splitOn_nil, List.mem_singleton] at h
    rw [h]
    exact List.not_mem_nil
  | cons c rest ih =>
    rw [List.splitOn_cons_eq_if_modifyHead] at h
    by_cases hc : c = '/'
    · rw [if_pos (beq_iff_eq.2 hc)] at h
      rcases List.mem_cons.1 h with rfl | h
      · exact List.not_mem_nil
      · exact ih h
    · rw [if_neg (by simpa using hc)] at h
      -- The character belongs to the first segment of the rest.
      rcases hrest : rest.splitOn '/' with - | ⟨first, others⟩
      · exact absurd hrest (List.splitOn_ne_nil _ _)
      · rw [hrest, List.modifyHead_cons] at h
        rcases List.mem_cons.1 h with rfl | h
        · have hfirst : '/' ∉ first := ih (hrest ▸ List.mem_cons_self)
          exact fun hslash => (List.mem_cons.1 hslash).elim (fun heq => hc heq.symm) hfirst
        · exact ih (hrest ▸ List.mem_cons_of_mem _ h)

/-- Idle segments are dropped at the end only. -/
theorem dropIdle_prefix_self (segments : List (List Char)) : dropIdle segments <+: segments := by
  unfold dropIdle
  rw [← List.reverse_suffix, List.reverse_reverse]
  exact List.dropWhile_suffix _

/-- The text of the first segments of a path has the first steps of the path. -/
theorem steps_prefix_of_segments {path : String} {front : List (List Char)} (hne : front ≠ [])
    (h : front <+: segments path) :
    steps ("/".intercalate (front.map String.ofList)) <+: steps path := by
  have hslash : ∀ segment ∈ front, '/' ∉ segment :=
    fun segment hmem => not_mem_of_mem_segments (h.subset hmem)
  have htexts : (front.map String.ofList).map String.toList = front := by
    rw [List.map_map]
    exact List.map_id'' (fun segment => String.toList_ofList) front
  have hsegments : segments ("/".intercalate (front.map String.ofList)) = front := by
    rw [segments, String.toList_intercalate, htexts]
    exact List.splitOn_intercalate '/' hslash hne
  rw [steps, hsegments]
  exact (h.filter _).map _

/-- The directory that holds a path is on its way. -/
theorem steps_parent?_prefix_steps (path : String) :
    steps ((parent? path).getD "") <+: steps path := by
  have hnone : steps "" = [] := by decide
  have hroot : steps "/" = [] := by decide
  rcases hparent : parent? path with - | parent
  · rw [Option.getD_none, hnone]
    exact List.nil_prefix
  rw [Option.getD_some]
  unfold parent? at hparent
  rcases hsegments : segments path with - | ⟨first, rest⟩
  · rw [hsegments] at hparent
    cases hparent
  rw [hsegments] at hparent
  dsimp only at hparent
  have hrest := dropIdle_prefix_self rest
  rcases hkept : dropIdle rest with - | ⟨second, others⟩
  · rw [hkept] at hparent
    dsimp only at hparent
    by_cases hfirst : first.isEmpty
    · rw [if_pos hfirst] at hparent
      cases hparent
    · rw [if_neg hfirst] at hparent
      cases hparent
      rw [hnone]
      exact List.nil_prefix
  · rw [hkept] at hparent hrest
    dsimp only at hparent
    have hfront : first :: dropIdle (second :: others).dropLast <+: segments path := by
      rw [hsegments, List.cons_prefix_cons]
      exact ⟨rfl, ((dropIdle_prefix_self _).trans (List.dropLast_prefix _)).trans hrest⟩
    have hsteps := steps_prefix_of_segments (List.cons_ne_nil _ _) hfront
    split at hparent
    · cases hparent
      rw [hroot]
      exact List.nil_prefix
    · cases hparent
      exact hsteps

end Path

namespace FileTree

/-- The places of a way: where it begins, and where each step from there leads. -/
def passed (here : Place) (steps : List String) : Set Place :=
  {place | ∃ front, front <+: steps ∧ place = front.foldl stepFrom here}

/-- The place behind some of the steps is passed on the way. -/
theorem foldl_mem_passed (here : Place) {front steps : List String} (h : front <+: steps) :
    front.foldl stepFrom here ∈ passed here steps :=
  ⟨front, h, rfl⟩

/-- A way goes on from where its first step leads. -/
theorem passed_cons {here : Place} {name : String} {rest : List String} :
    passed (stepFrom here name) rest ⊆ passed here (name :: rest) := by
  rintro _ ⟨front, hfront, rfl⟩
  exact ⟨name :: front, List.cons_prefix_cons.2 ⟨rfl, hfront⟩, rfl⟩

/-- The places of the way of a path. -/
def waypoints (t : FileTree) (path : String) : Set Place := passed (t.start path) (Path.steps path)

end FileTree

/-! ## Making directories -/

namespace FileWork

open FileTree

/-- Looking at a place changes nothing, and tells what stands there. -/
theorem find?_leaves {R : FileTree → FileTree → Prop} [Std.Refl R] {α : Type} {place : Place}
    {f : Option Entry → FileWork α} {t : FileTree} (hf : R t (f (t.lookup place) t).2) :
    R t ((find? place >>= f) t).2 := by
  rcases hfind : t.find? place with fault | entry
  · have hfails : (find? place >>= f) t = (.error fault, t) := by
      apply bind_error_iff.2
      rw [find?_eq, hfind]
      exact .inl rfl
    rw [hfails]
    exact refl_of R t
  · have hfound : find? place t = (.ok entry, t) := by rw [find?_eq, hfind]
    rw [bind_of_ok hfound, (find?_ok hfind).1]
    exact hf

/-- To check a path changes nothing. -/
theorem checkPath_leaves {R : FileTree → FileTree → Prop} [Std.Refl R] (path : String) :
    Leaves R (checkPath path) := by
  unfold checkPath
  split
  · exact Leaves.throw _
  · split
    · exact Leaves.throw _
    · exact Leaves.pure _

variable (own : Set Place) {way : Set Place}

/-- A directory is made on the way, if at all. -/
theorem makeDir_grows {here : Place} {steps : List String} (h : passed here steps ⊆ way) :
    Leaves (Grows own way) (makeDir here steps) := by
  intro t
  have hget : (get : FileWork FileTree) t = (.ok t, t) := rfl
  unfold makeDir
  rw [bind_of_ok hget]
  rcases hlocate : t.locate here steps with fault | place
  · exact Grows.refl own way t
  · apply find?_leaves
    rcases hentry : t.lookup place with - | entry
    · refine grows_set_dir hentry (h ?_)
      rw [locate_ok hlocate]
      exact foldl_mem_passed here (List.prefix_refl steps)
    · exact Grows.refl own way t

theorem makeOrKeepDir_grows {here : Place} {steps : List String} (h : passed here steps ⊆ way) :
    Leaves (Grows own way) (makeOrKeepDir here steps) := by
  refine Leaves.tryCatch (makeDir_grows own h) fun fault => Leaves.bind Leaves.get ?_
  intro tree
  split
  · exact Leaves.pure _
  · exact Leaves.throw _

/-- The directories made along a path lie on the way. -/
theorem makeAlong_grows {here : Place} {steps : List String} (h : passed here steps ⊆ way) :
    Leaves (Grows own way) (makeAlong here steps) := by
  induction here, steps using makeAlong.induct with
  | case1 here => exact Leaves.pure _
  | case2 here rest ih => exact ih (passed_cons.trans h)
  | case3 here rest ih => exact ih (passed_cons.trans h)
  | case4 here name rest hdot hdots ih =>
    have hstep : stepFrom here name = here ++ [name] := by
      rw [stepFrom, if_neg hdot, if_neg hdots]
    have hrest : passed (here ++ [name]) rest ⊆ way := hstep ▸ passed_cons.trans h
    intro t
    rw [makeAlong]
    · apply find?_leaves
      -- A directory is made only where nothing stands.
      rcases hentry : t.lookup (here ++ [name]) with - | ⟨bytes | -⟩
      · have hway : here ++ [name] ∈ way := hrest (foldl_mem_passed _ List.nil_prefix)
        exact (grows_set_dir hentry hway).trans (ih hrest _)
      · exact Grows.refl own way t
      · exact ih hrest t
    · exact hdot
    · exact hdots

/-- Making directories adds some of the way, whether all can be made or not. -/
theorem makeDirs_grows (path : String) (t : FileTree) :
    Grows own (t.waypoints path) t (makeDirs path t).2 := by
  unfold makeDirs
  split
  · exact Grows.refl own _ t
  · refine Leaves.bind_at (checkPath_leaves path t) ?_
    intro _ u hcheck
    obtain ⟨rfl, -⟩ := checkPath_ok hcheck
    have hget : (get : FileWork FileTree) u = (.ok u, u) := rfl
    rw [bind_of_ok hget]
    have hway : passed (u.start path) (Path.steps path) ⊆ u.waypoints path := subset_rfl
    have hparents : passed (u.start path) (Path.steps ((Path.parent? path).getD "")) ⊆
        u.waypoints path := by
      rintro _ ⟨front, hfront, rfl⟩
      exact foldl_mem_passed _ (hfront.trans (Path.steps_parent?_prefix_steps path))
    refine Leaves.tryCatch (makeOrKeepDir_grows own hway) (fun fault => ?_) u
    split
    · exact Leaves.bind (makeAlong_grows own hparents) fun _ => makeOrKeepDir_grows own hway
    · exact Leaves.throw _

/-- To make the parents of a file changes no file. -/
theorem makeParentDirs_keeps (path : String) : Leaves (Keeps own) (makeParentDirs path) := by
  intro t
  unfold makeParentDirs
  rcases Path.parent? path with - | parent
  · exact Keeps.refl own t
  · exact (makeDirs_grows own parent t).toKeeps

/-! ## Making files -/

/-- To look for a file changes nothing. -/
theorem placeOf_leaves {R : FileTree → FileTree → Prop} [Std.Refl R] [IsTrans FileTree R]
    (path : String) : Leaves R (placeOf path) := by
  have hsame : ∀ (t : FileTree) (outcome : Except FileFault Place × FileTree),
      outcome = (t.locate (t.start path) (Path.steps path), t) → R t outcome.2 := by
    rintro t _ rfl
    exact refl_of R t
  unfold placeOf
  refine Leaves.bind (checkPath_leaves path) fun _ => ?_
  split
  · exact Leaves.bind (Leaves.throw _) fun _ t => hsame t _ (locate_eq path t)
  · exact fun t => hsame t _ (locate_eq path t)

/-- A file is made at the place that its path denotes, if it is made at all. -/
theorem createFile_grows {path : String} {t : FileTree} (hown : t.destination path ∈ own) :
    Grows own way t (createFile path t).2 := by
  unfold createFile
  refine Leaves.bind_at (placeOf_leaves path t) ?_
  intro place u hplace
  obtain ⟨rfl, -, -, hlocate⟩ := placeOf_ok_iff.1 hplace
  have hplace : place ∈ own := locate_ok hlocate ▸ hown
  split
  · exact Grows.refl own way u
  · apply find?_leaves
    rcases hentry : u.lookup place with - | ⟨bytes | -⟩
    · exact grows_set_file (by rw [hentry]; nofun) hplace .empty
    · exact grows_set_file (by rw [hentry]; nofun) hplace .empty
    · exact Grows.refl own way u

/-- Writing a file changes the place that its path denotes, and no other. -/
theorem writeFile_keeps {path text : String} {t t' : FileTree} {own : Set Place}
    (h : writeFile path text t = (.ok (), t')) (hown : t.destination path ∈ own) :
    Keeps own t t' := by
  unfold writeFile at h
  rw [bind_ok_iff] at h
  obtain ⟨place, u, hcreate, hfill⟩ := h
  obtain ⟨hfile, rfl⟩ := createFile_ok_iff.1 hcreate
  cases hfill
  have hsame := hfile.sameDirs .empty
  have hown' : (t.set place (.file .empty)).destination path ∈ own := by
    rw [destination_of_home hsame.home]
    exact hown
  have hgrows : Grows own ∅ t _ :=
    (hfile.grows hown .empty).trans ((hfile.of_sameDirs hsame).grows hown' text.toByteArray)
  exact hgrows.toKeeps

end FileWork

/-! ## Sessions -/

/-- The tree of the second session has grown from that of the first. -/
def Session.Grows (own way : Set Place) (s s' : Session) : Prop := s.tree.Grows own way s'.tree

instance (own way : Set Place) : Std.Refl (Session.Grows own way) :=
  ⟨fun s => FileTree.Grows.refl own way s.tree⟩

instance (own way : Set Place) : IsTrans Session (Session.Grows own way) :=
  ⟨fun _ _ _ h h' => FileTree.Grows.trans h h'⟩

namespace SessionWork

variable {own way : Set Place} {ε α : Type}

/-- A message of the log leaves the tree as it is. -/
theorem log_grows (level : Log.Level) (message : String) (fields : List (String × Value)) :
    Leaves (Session.Grows own way) (log level message fields : SessionWork ε Unit) :=
  fun s => FileTree.Grows.refl own way s.tree

/-- Work on the tree does to the session what it does to the tree. -/
theorem onTree_grows {report : FileFault → ε} {work : FileWork α} {s : Session}
    (h : s.tree.Grows own way (work s.tree).2) :
    Session.Grows own way s (onTree report work s).2 := by
  rw [onTree.eq_def]
  rcases hrun : work s.tree with ⟨fault | a, tree⟩
  · rw [hrun] at h
    exact h
  · rw [hrun] at h
    exact h

end SessionWork

/-! ## The files of a dataset -/

namespace Dataset

open FileTree

/-- The paths of the three files, in the order in which they are created. -/
def Paths.all (p : Paths) : List String := [p.main, p.child, p.inline]

/-- The places that the paths denote. -/
def Paths.places (p : Paths) (t : FileTree) : Set Place := {place | place ∈ p.all.map t.destination}

variable {paths : Paths} {headers : Bool} {w : Writer} {t t' : FileTree} {own way : Set Place}

/-- Each path of a dataset leads to one of its places. -/
theorem Paths.mem_places {path : String} (h : path ∈ paths.all) :
    t.destination path ∈ paths.places t :=
  List.mem_map_of_mem h

/-- The places of a dataset are told by the directory that paths start from. -/
theorem Paths.places_of_home (h : t'.home = t.home) : paths.places t' = paths.places t := by
  unfold places
  rw [List.map_congr_left fun path _ => destination_of_home h path]

theorem Paths.related_mem_all (kind : RelatedKind) : paths.related kind ∈ paths.all := by
  unfold all
  cases kind with
  | child => exact List.mem_cons_of_mem _ List.mem_cons_self
  | inline => exact List.mem_cons_of_mem _ (List.mem_cons_of_mem _ List.mem_cons_self)

/-- A file is created, and work goes on with it, unless it cannot be created. -/
theorem Sink.create_bind_grows {α : Type} {path : String} {columns : List String}
    {next : Sink → FileWork α} (hown : t.destination path ∈ own)
    (hnext : ∀ sink u, Grows own way t u → sink.place ∈ own →
      u.lookup sink.place = some (.file .empty) → Grows own way u (next sink u).2) :
    Grows own way t ((Sink.create path columns headers >>= next) t).2 := by
  have hcreate : Grows own way t (Sink.create path columns headers t).2 := by
    unfold Sink.create
    refine Leaves.bind_at (FileWork.createFile_grows own hown) ?_
    intro place u _
    exact Grows.refl own way u
  refine Leaves.bind_at hcreate ?_
  intro sink u hsink
  rw [hsink] at hcreate
  unfold Sink.create at hsink
  rw [bind_ok_iff] at hsink
  obtain ⟨place, u, hmake, hpure⟩ := hsink
  obtain ⟨hfile, rfl⟩ := FileWork.createFile_ok_iff.1 hmake
  obtain ⟨rfl, rfl⟩ := pure_ok_iff.1 hpure
  refine hnext _ _ hcreate (hfile.place_eq ▸ hown) ?_
  exact (lookup_set _ _ _ _ hfile.ne_nil).trans (if_pos rfl)

/-- Giving up a file that is there changes its place alone, after any work on other files. -/
theorem Writer.flushOnFault_grows {α : Type} {opened : Sink} {work : FileWork α}
    {bytes : ByteArray} (hfile : t.lookup opened.place = some (.file bytes))
    (hown : opened.place ∈ own) (hwork : Grows own way t (work t).2) :
    Grows own way t (flushOnFault opened work t).2 := by
  unfold flushOnFault
  rw [tryCatch_eq]
  rcases hrun : work t with ⟨fault | a, u⟩
  · rw [hrun] at hwork
    -- The work has left a file there, whatever is in it.
    obtain ⟨bytes', hfile', -⟩ := hwork.file _ bytes hfile
    have hdir : u.lookup opened.place ≠ some .dir := by
      rw [hfile']
      nofun
    exact hwork.trans (grows_set_file hdir hown _)
  · rw [hrun] at hwork
    exact hwork

/-- Creating the three files changes no other place, whether all can be created or not. -/
theorem Writer.create_grows (hown : paths.places t ⊆ own) :
    Grows own way t (Writer.create paths headers t).2 := by
  have hplace : ∀ {u : FileTree} {path : String}, u.home = t.home → path ∈ paths.all →
      u.destination path ∈ own := by
    intro u path hhome hpath
    rw [destination_of_home hhome]
    exact hown (Paths.mem_places hpath)
  unfold Writer.create
  refine Sink.create_bind_grows (hplace rfl List.mem_cons_self) ?_
  intro main u hu hmain hmfile
  refine flushOnFault_grows hmfile hmain (Sink.create_bind_grows ?_ ?_)
  · exact hplace hu.home (Paths.related_mem_all .child)
  intro child v hv hchild hcfile
  refine flushOnFault_grows hcfile hchild (Sink.create_bind_grows ?_ ?_)
  · exact hplace (hu.trans hv).home (Paths.related_mem_all .inline)
  intro inline w _ _ _
  exact Grows.refl own way w

/-- Storing the text of a writer changes the three files alone. -/
theorem Writer.finish_grows (h : w.Opened paths t) (hown : paths.places t ⊆ own) :
    Grows own way t (w.finish t).2 := by
  have hput : ∀ {u : FileTree} {path : String} {place : Place}, t.SameDirs u →
      path ∈ paths.all → t.FileAt path place → ∀ bytes,
      t.SameDirs (u.set place (.file bytes)) ∧ Grows own way u (u.set place (.file bytes)) := by
    intro u path place hsame hpath hfile bytes
    have hfile' := hfile.of_sameDirs hsame
    refine ⟨hsame.trans (hfile'.sameDirs bytes), hfile'.grows ?_ bytes⟩
    rw [destination_of_home hsame.home]
    exact hown (Paths.mem_places hpath)
  obtain ⟨hsame, hmain⟩ := hput (SameDirs.refl t) List.mem_cons_self h.main
    w.main.text.toByteArray
  obtain ⟨hsame', hchild⟩ := hput hsame (Paths.related_mem_all .child) (h.related .child)
    w.child.text.toByteArray
  obtain ⟨-, hinline⟩ := hput hsame' (Paths.related_mem_all .inline) (h.related .inline)
    w.inline.text.toByteArray
  exact (hmain.trans hchild).trans hinline

/-- A dataset stays stored while others change places that its paths do not denote. -/
theorem Contents.StoredIn.of_keeps {c : Contents} {dir : String} (h : c.StoredIn dir t)
    (hkeeps : Keeps own t t') (hothers : ∀ place ∈ (Paths.inDir dir).places t, place ∉ own) :
    c.StoredIn dir t' := by
  have hopen : ∀ {path bytes}, path ∈ (Paths.inDir dir).all →
      FileWork.openEntry path t = (.ok (.file bytes), t) →
      FileWork.openEntry path t' = (.ok (.file bytes), t') := by
    intro path bytes hpath hopened
    obtain ⟨-, place, hfile, hlookup⟩ := FileWork.openEntry_file_iff.1 hopened
    have hother : place ∉ own := by
      rw [hfile.place_eq]
      exact hothers _ (Paths.mem_places hpath)
    have hlookup' := hkeeps.lookup_file hlookup hother
    exact FileWork.openEntry_eq (hfile.of_keeps hkeeps hlookup') hlookup'
  constructor
  · exact hopen List.mem_cons_self h.main
  · intro kind
    exact hopen (Paths.related_mem_all kind) (h.related kind)

end Dataset

end LinkedDocs
