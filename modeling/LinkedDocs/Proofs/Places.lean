import LinkedDocs.Proofs.Work
import Mathlib.Data.List.Basic

/-!
# Files are found where they were put

Writing a file changes no directory, so a path that led to a place before leads
there afterwards. Files of different names have different places.

* `SameDirs`: two trees with the same directories.
* `destination`: the place that a path denotes; no other place is found by it.
* `FileAt`: a path leads to a place that can hold a file.
* `createFile_ok_iff`, `openEntry_file_iff`: files that are created and opened.
* `FileAt.place_ne`: names that differ lead to places that differ.
-/

namespace LinkedDocs

namespace FileTree

/-! ## Trees with the same directories -/

/-- Both trees have the same directories, and relative paths start at the same place. -/
structure SameDirs (t t' : FileTree) : Prop where
  home : t'.home = t.home
  dir : ∀ place, t'.lookup place = some .dir ↔ t.lookup place = some .dir

/-- Every directory of the first tree is one of the second. -/
def DirsStay (t t' : FileTree) : Prop :=
  ∀ place, t.lookup place = some .dir → t'.lookup place = some .dir

theorem SameDirs.dirsStay {t t' : FileTree} (h : SameDirs t t') : t.DirsStay t' :=
  fun place hdir => (h.dir place).2 hdir

theorem SameDirs.refl (t : FileTree) : SameDirs t t := ⟨rfl, fun _ => Iff.rfl⟩

theorem SameDirs.trans {t u v : FileTree} (h : SameDirs t u) (h' : SameDirs u v) :
    SameDirs t v := by
  constructor
  · rw [h'.home, h.home]
  · intro place
    rw [h'.dir, h.dir]

/-- Whether a name is too long depends on the name alone. -/
theorem find?_ok {t : FileTree} {place : Place} {entry : Option Entry}
    (h : t.find? place = .ok entry) :
    entry = t.lookup place ∧ ∀ t' : FileTree, t'.find? place = .ok (t'.lookup place) := by
  unfold find? at h ⊢
  by_cases hlong : place.getLast?.any fun name => Path.longestName < name.utf8ByteSize
  · rw [if_pos hlong] at h
    cases h
  · rw [if_neg hlong] at h
    cases h
    exact ⟨rfl, fun t' => if_neg hlong⟩

/-- A name is stepped into if it is a directory. -/
theorem walk_cons_ok {t : FileTree} {here place : Place} {name : String} {rest : List String}
    (hdot : name ≠ ".") (hdots : name ≠ "..") (h : t.walk here (name :: rest) = .ok place) :
    t.find? (here ++ [name]) = .ok (some .dir) ∧ t.walk (here ++ [name]) rest = .ok place := by
  rw [FileTree.walk] at h
  · split at h
    · cases h
    · cases h
    · cases h
    · rename_i hfind
      exact ⟨hfind, h⟩
  · exact hdot
  · exact hdots

/-- Only directories are passed on the way. -/
theorem walk_of_dirsStay {t t' : FileTree} (h : t.DirsStay t') {here place : Place}
    {steps : List String} (hwalk : t.walk here steps = .ok place) :
    t'.walk here steps = .ok place := by
  induction steps generalizing here with
  | nil => exact hwalk
  | cons name rest ih =>
    by_cases hdot : name = "."
    · subst hdot
      exact ih hwalk
    by_cases hdots : name = ".."
    · subst hdots
      exact ih hwalk
    -- Only directories are stepped into, and they are directories in both trees.
    obtain ⟨hfind, hrest⟩ := walk_cons_ok hdot hdots hwalk
    obtain ⟨hentry, hnamed⟩ := find?_ok hfind
    rw [FileTree.walk, hnamed, h _ hentry.symm]
    · exact ih hrest
    · exact hdot
    · exact hdots

/-- A path leads to the same place while its directories stay. -/
theorem locate_of_dirsStay {t t' : FileTree} (h : t.DirsStay t') {here place : Place}
    {steps : List String} (hlocate : t.locate here steps = .ok place) :
    t'.locate here steps = .ok place := by
  unfold FileTree.locate at hlocate ⊢
  cases hlast : steps.getLast? with
  | none => rwa [hlast] at hlocate
  | some last =>
    rw [hlast] at hlocate
    dsimp only at hlocate ⊢
    -- The last step need not be there, unless it is `.` or `..`.
    by_cases hdots : last = "." ∨ last = ".."
    · rw [if_pos hdots] at hlocate ⊢
      exact walk_of_dirsStay h hlocate
    · rw [if_neg hdots] at hlocate ⊢
      cases hparent : t.walk here steps.dropLast with
      | error fault =>
        rw [hparent] at hlocate
        cases hlocate
      | ok parent =>
        rw [hparent] at hlocate
        rw [walk_of_dirsStay h hparent]
        exact hlocate

/-! ## Where a path leads -/

/-- The place that one step leads to. -/
def stepFrom (here : Place) (name : String) : Place :=
  if name = "." then here else if name = ".." then here.dropLast else here ++ [name]

/-- The place that a path denotes: where it leads if every directory on its way is there. -/
def destination (t : FileTree) (path : String) : Place :=
  (Path.steps path).foldl stepFrom (t.start path)

/-- Where a path leads is told by the directory that it starts from. -/
theorem destination_of_home {t t' : FileTree} (h : t'.home = t.home) (path : String) :
    t'.destination path = t.destination path := by
  rw [destination, destination, start, start, h]

/-- A walk that succeeds ends where its steps lead. -/
theorem walk_ok {t : FileTree} {here place : Place} {steps : List String}
    (h : t.walk here steps = .ok place) : place = steps.foldl stepFrom here := by
  induction steps generalizing here with
  | nil =>
    cases h
    rfl
  | cons name rest ih =>
    by_cases hdot : name = "."
    · subst hdot
      exact ih h
    by_cases hdots : name = ".."
    · subst hdots
      exact ih h
    rw [List.foldl_cons, stepFrom, if_neg hdot, if_neg hdots]
    exact ih (walk_cons_ok hdot hdots h).2

/-- A place that is located is where its steps lead. -/
theorem locate_ok {t : FileTree} {here place : Place} {steps : List String}
    (h : t.locate here steps = .ok place) : place = steps.foldl stepFrom here := by
  unfold FileTree.locate at h
  cases hlast : steps.getLast? with
  | none =>
    rw [hlast] at h
    cases h
    rw [List.getLast?_eq_none_iff.1 hlast, List.foldl_nil]
  | some last =>
    obtain ⟨front, rfl⟩ := List.getLast?_eq_some_iff.1 hlast
    rw [hlast, List.dropLast_concat] at h
    dsimp only at h
    by_cases hdots : last = "." ∨ last = ".."
    · rw [if_pos hdots] at h
      exact walk_ok h
    · rw [if_neg hdots] at h
      obtain ⟨hdot, hdots⟩ := not_or.1 hdots
      cases hparent : t.walk here front with
      | error fault =>
        rw [hparent] at h
        cases h
      | ok parent =>
        rw [hparent] at h
        cases h
        rw [List.foldl_concat, ← walk_ok hparent, stepFrom, if_neg hdot, if_neg hdots]

/-! ## Places of files -/

/-- The path leads to a place at which a file is or can be made. -/
structure FileAt (t : FileTree) (path : String) (place : Place) : Prop where
  usable : ∀ t' : FileTree, FileWork.checkPath path t' = (.ok (), t')
  ne_empty : path.isEmpty = false
  located : t.locate (t.start path) (Path.steps path) = .ok place
  no_slash : Path.endsWithSlash path = false
  named : ∀ t' : FileTree, t'.find? place = .ok (t'.lookup place)
  not_dir : t.lookup place ≠ some .dir

theorem FileAt.ne_nil {t : FileTree} {path : String} {place : Place} (h : FileAt t path place) :
    place ≠ [] := by
  rintro rfl
  exact h.not_dir rfl

/-- The place is the one that the path denotes. -/
theorem FileAt.place_eq {t : FileTree} {path : String} {place : Place} (h : FileAt t path place) :
    place = t.destination path :=
  locate_ok h.located

/-- Writing a file changes no directory. -/
theorem FileAt.sameDirs {t : FileTree} {path : String} {place : Place} (h : FileAt t path place)
    (bytes : ByteArray) : SameDirs t (t.set place (.file bytes)) := by
  constructor
  · rfl
  · intro other
    rw [lookup_set _ _ _ _ h.ne_nil]
    by_cases heq : other = place
    · rw [if_pos heq, heq]
      constructor
      · intro hfile
        cases hfile
      · intro hdir
        exact absurd hdir h.not_dir
    · rw [if_neg heq]

/-- A file can be stored at a place while the directories are the same. -/
theorem FileAt.of_sameDirs {t t' : FileTree} {path : String} {place : Place}
    (h : FileAt t path place) (hsame : SameDirs t t') : FileAt t' path place where
  usable := h.usable
  ne_empty := h.ne_empty
  located := by
    rw [start, hsame.home]
    exact locate_of_dirsStay hsame.dirsStay h.located
  no_slash := h.no_slash
  named := h.named
  not_dir := fun hdir => h.not_dir ((hsame.dir _).1 hdir)

end FileTree

namespace FileWork

open FileTree

variable {path : String} {place : Place} {t t' : FileTree}

/-! ## Creating and opening files -/

/-- Whether a path can be used depends on the path alone. -/
theorem checkPath_ok (h : checkPath path t = (.ok (), t')) :
    t' = t ∧ ∀ u : FileTree, checkPath path u = (.ok (), u) := by
  unfold checkPath at h ⊢
  by_cases hnul : path.toList.contains '\x00'
  · rw [if_pos hnul] at h
    exact absurd h throw_ne_ok
  · rw [if_neg hnul] at h ⊢
    by_cases hlong : Path.longest < path.utf8ByteSize
    · rw [if_pos hlong] at h
      exact absurd h throw_ne_ok
    · rw [if_neg hlong] at h ⊢
      exact ⟨(pure_ok_iff.1 h).2, fun u => rfl⟩

theorem find?_eq (place : Place) (t : FileTree) : find? place t = (t.find? place, t) := by
  have hget : (get : FileWork FileTree) t = (.ok t, t) := rfl
  unfold find?
  rw [bind_of_ok hget]
  cases t.find? place <;> rfl

/-- The place that the steps of a path lead to. -/
theorem locate_eq (path : String) (t : FileTree) :
    ((do
      let tree ← get
      match tree.locate (tree.start path) (Path.steps path) with
      | .ok place => return place
      | .error fault => throw fault) : FileWork Place) t =
        (t.locate (t.start path) (Path.steps path), t) := by
  show (match t.locate (t.start path) (Path.steps path) with
    | .ok place => pure place
    | .error fault => throw fault : FileWork Place) t = _
  cases t.locate (t.start path) (Path.steps path) <;> rfl

/-- A path has a place exactly if it is well formed and its directories are there. -/
theorem placeOf_ok_iff :
    placeOf path t = (.ok place, t') ↔ t' = t ∧
      (∀ u : FileTree, checkPath path u = (.ok (), u)) ∧ path.isEmpty = false ∧
      t.locate (t.start path) (Path.steps path) = .ok place := by
  unfold placeOf
  constructor
  · intro h
    rw [bind_ok_iff] at h
    rcases h with ⟨⟨⟩, u, hcheck, h⟩
    rcases checkPath_ok hcheck with ⟨rfl, husable⟩
    split at h
    · rcases bind_ok_iff.1 h with ⟨_, _, hthrow, _⟩
      exact absurd hthrow throw_ne_ok
    · rename_i hempty
      have hlocate := (locate_eq path u).symm.trans h
      rw [Prod.mk.injEq] at hlocate
      exact ⟨hlocate.2.symm, husable, Bool.eq_false_iff.2 hempty, hlocate.1⟩
  · rintro ⟨rfl, husable, hempty, hlocate⟩
    rw [bind_of_ok (husable t')]
    dsimp only
    rw [hempty, if_neg Bool.false_ne_true]
    refine (locate_eq path t').trans ?_
    rw [hlocate]

/-- A file that is created stands empty at the place of its path. -/
theorem createFile_ok_iff :
    createFile path t = (.ok place, t') ↔
      t.FileAt path place ∧ t' = t.set place (.file .empty) := by
  unfold createFile
  constructor
  · intro h
    rw [bind_ok_iff] at h
    rcases h with ⟨found, u, hplace, h⟩
    rcases placeOf_ok_iff.1 hplace with ⟨rfl, husable, hempty, hlocate⟩
    split at h
    · rcases bind_ok_iff.1 h with ⟨_, _, hthrow, _⟩
      exact absurd hthrow throw_ne_ok
    rename_i hslash
    rw [bind_ok_iff] at h
    rcases h with ⟨entry, v, hfind, h⟩
    rw [find?_eq, Prod.mk.injEq] at hfind
    rcases hfind with ⟨hfind, rfl⟩
    rcases FileTree.find?_ok hfind with ⟨hentry, hnamed⟩
    have hfile : ∀ hdir : u.lookup found ≠ some .dir, u.FileAt path found := fun hdir =>
      ⟨husable, hempty, hlocate, Bool.eq_false_iff.2 hslash, hnamed, hdir⟩
    -- Nothing or a file at the place is overwritten; a directory is refused.
    rcases entry with - | ⟨bytes | -⟩
    · cases h
      exact ⟨hfile (by rw [← hentry]; nofun), rfl⟩
    · cases h
      exact ⟨hfile (by rw [← hentry]; nofun), rfl⟩
    · exact absurd h throw_ne_ok
  · rintro ⟨h, rfl⟩
    have hplace : placeOf path t = (.ok place, t) :=
      placeOf_ok_iff.2 ⟨rfl, h.usable, h.ne_empty, h.located⟩
    have hfind : find? place t = (.ok (t.lookup place), t) := by
      rw [find?_eq, h.named]
    rw [bind_of_ok hplace, if_neg (Bool.eq_false_iff.1 h.no_slash)]
    refine (bind_of_ok hfind).trans ?_
    rcases hentry : t.lookup place with - | ⟨bytes | -⟩
    · rfl
    · rfl
    · exact absurd hentry h.not_dir

/-- What is opened stands at the place of its path; opening changes nothing. -/
theorem openEntry_ok {entry : Entry} (h : openEntry path t = (.ok entry, t')) :
    t' = t ∧ ∀ bytes, entry = .file bytes →
      ∃ place, t.FileAt path place ∧ t.lookup place = some (.file bytes) := by
  unfold openEntry at h
  rw [bind_ok_iff] at h
  rcases h with ⟨found, u, hplace, h⟩
  rcases placeOf_ok_iff.1 hplace with ⟨rfl, husable, hempty, hlocate⟩
  rw [bind_ok_iff] at h
  rcases h with ⟨_, v, hfind, h⟩
  rw [find?_eq, Prod.mk.injEq] at hfind
  rcases hfind with ⟨hfind, rfl⟩
  rcases FileTree.find?_ok hfind with ⟨hentry, hnamed⟩
  split at h
  · exact absurd h throw_ne_ok
  · cases h
    exact ⟨rfl, nofun⟩
  · split at h
    · exact absurd h throw_ne_ok
    rename_i hslash
    cases h
    refine ⟨rfl, fun bytes hbytes => ?_⟩
    rw [hbytes] at hentry
    exact ⟨found, ⟨husable, hempty, hlocate, Bool.eq_false_iff.2 hslash, hnamed,
      by rw [← hentry]; nofun⟩, hentry.symm⟩

/-- A file is opened where it stands. -/
theorem openEntry_file_iff {bytes : ByteArray} :
    openEntry path t = (.ok (.file bytes), t') ↔
      t' = t ∧ ∃ place, t.FileAt path place ∧ t.lookup place = some (.file bytes) := by
  constructor
  · intro h
    obtain ⟨rfl, hfile⟩ := openEntry_ok h
    exact ⟨rfl, hfile bytes rfl⟩
  · rintro ⟨rfl, place, h, hfile⟩
    have hplace : placeOf path t' = (.ok place, t') :=
      placeOf_ok_iff.2 ⟨rfl, h.usable, h.ne_empty, h.located⟩
    have hfind : find? place t' = (.ok (some (.file bytes)), t') := by
      rw [find?_eq, h.named, hfile]
    unfold openEntry
    rw [bind_of_ok hplace, bind_of_ok hfind]
    dsimp only
    rw [if_neg (Bool.eq_false_iff.1 h.no_slash)]
    rfl

/-- A file that is there is opened. -/
theorem openEntry_eq {bytes : ByteArray} (h : t.FileAt path place)
    (hfile : t.lookup place = some (.file bytes)) :
    openEntry path t = (.ok (.file bytes), t) :=
  openEntry_file_iff.2 ⟨rfl, place, h, hfile⟩

end FileWork

/-! ## Names -/

/-- What stands before a name below a directory is nothing, or ends with a slash. -/
theorem Path.toList_join (dir name : String) :
    (Path.join dir name).toList = name.toList ∨
      ∃ front, (Path.join dir name).toList = front ++ '/' :: name.toList := by
  unfold Path.join
  split
  · rename_i h
    rcases Bool.or_eq_true_iff.1 h with hempty | hslash
    · left
      rw [String.isEmpty_iff.1 hempty, String.empty_append]
    · right
      rcases List.getLast?_eq_some_iff.1 (of_decide_eq_true hslash) with ⟨front, hfront⟩
      exact ⟨front, by rw [String.toList_append, hfront, List.append_assoc]; rfl⟩
  · right
    exact ⟨dir.toList, by simp⟩

/-- Different names below a directory have different paths. -/
theorem Path.join_inj {dir name name' : String} :
    Path.join dir name = Path.join dir name' ↔ name = name' := by
  unfold Path.join
  split
  · exact String.append_right_inj dir
  · exact String.append_right_inj _

/-- The text is one ordinary step of a path. -/
def Path.IsName (name : String) : Prop :=
  (name.toList ≠ [] ∧ '/' ∉ name.toList) ∧ name ≠ "." ∧ name ≠ ".."

instance (name : String) : Decidable (Path.IsName name) :=
  inferInstanceAs (Decidable (_ ∧ _))

/-- The last step of a path below a directory is the name. -/
theorem Path.getLast?_steps_join (dir : String) {name : String} (h : Path.IsName name) :
    (Path.steps (Path.join dir name)).getLast? = some name := by
  rcases h with ⟨⟨hne, hslash⟩, -⟩
  have hsegments : ∃ front, Path.segments (Path.join dir name) = front ++ [name.toList] := by
    unfold Path.segments
    rcases Path.toList_join dir name with heq | ⟨front, heq⟩
    · exact ⟨[], by rw [heq, List.splitOn_eq_singleton hslash]; rfl⟩
    · exact ⟨front.splitOn '/', by
        rw [heq, List.splitOn_append_cons_self, List.splitOn_eq_singleton hslash]⟩
  rcases hsegments with ⟨front, hfront⟩
  rw [Path.steps, hfront]
  simp [hne]

namespace FileTree

/-- A file below a directory has its name at the end of its place. -/
theorem FileAt.getLast? {t : FileTree} {dir name : String} {place : Place}
    (h : FileAt t (Path.join dir name) place) (hname : Path.IsName name) :
    place.getLast? = some name := by
  have hlocated := h.located
  rw [locate, Path.getLast?_steps_join dir hname] at hlocated
  dsimp only at hlocated
  rw [if_neg (not_or.2 hname.2)] at hlocated
  cases hparent : t.walk (t.start (Path.join dir name))
      (Path.steps (Path.join dir name)).dropLast with
  | error fault =>
    rw [hparent] at hlocated
    cases hlocated
  | ok parent =>
    rw [hparent] at hlocated
    cases hlocated
    exact List.getLast?_concat

/-- Files of different names have different places. -/
theorem FileAt.place_ne {t : FileTree} {dir name name' : String} {place place' : Place}
    (h : FileAt t (Path.join dir name) place) (h' : FileAt t (Path.join dir name') place')
    (hname : Path.IsName name) (hname' : Path.IsName name') (hne : name ≠ name') :
    place ≠ place' := by
  intro heq
  have hlast := h.getLast? hname
  rw [heq, h'.getLast? hname'] at hlast
  exact hne (Option.some.inj hlast).symm

end FileTree

end LinkedDocs
