import LinkedDocs.Path
import Std.Data.ExtTreeMap

/-!
# File trees

A directory tree as a value: the entries below its root, each a file with its
bytes or a directory. Relative paths start from the home of the tree, others from
its root. Paths are resolved step by step, so `..` leaves only a directory that
is there, and a name is found too long only in a directory that is there.

* `FileTree.lookup`: the entry at a place; the root is a directory.
* `makeDirs`, `createFile`, `fillFile`, `openEntry`: what they change, or why
  they fail; a failure keeps what was changed before it.
* `lookup_set`: putting an entry changes its own place alone.
-/

namespace LinkedDocs

/-- What stands at a place of a tree. -/
inductive Entry where
  | file (bytes : ByteArray)
  | dir

/-- Why a file or directory cannot be used. -/
inductive FileFault where
  | notFound
  | alreadyExists
  | notDirectory
  | isDirectory
  | nameTooLong
  | nulInPath
  | notText
  deriving DecidableEq, Repr

/-- The words for a fault. -/
def FileFault.message : FileFault → String
  | notFound => "No such file or directory (os error 2)"
  | alreadyExists => "File exists (os error 17)"
  | notDirectory => "Not a directory (os error 20)"
  | isDirectory => "Is a directory (os error 21)"
  | nameTooLong => "File name too long (os error 36)"
  | nulInPath => "file name contained an unexpected NUL byte"
  | notText => "stream did not contain valid UTF-8"

/-- A place of a tree: the names from the root down. -/
abbrev Place := List String

/-- A directory tree; the root itself has no entry. -/
structure FileTree where
  entries : Std.ExtTreeMap Place Entry := ∅
  /-- The place where relative paths start. -/
  home : Place := []

namespace FileTree

/-- The entry at a place. -/
def lookup (t : FileTree) (place : Place) : Option Entry :=
  if place.isEmpty then some .dir else t.entries[place]?

/-- The tree with an entry put at a place. -/
def set (t : FileTree) (place : Place) (entry : Entry) : FileTree :=
  { t with entries := t.entries.insert place entry }

@[simp] theorem home_set (t : FileTree) (place : Place) (entry : Entry) :
    (t.set place entry).home = t.home := rfl

/-- Putting an entry changes its own place alone. -/
theorem lookup_set (t : FileTree) (place other : Place) (entry : Entry) (h : place ≠ []) :
    (t.set place entry).lookup other = if other = place then some entry else t.lookup other := by
  by_cases ho : other = []
  · subst ho
    simp [lookup, h.symm]
  · by_cases hp : other = place
    · subst hp
      simp [lookup, set, ho]
    · simp [lookup, set, ho, hp, Std.ExtTreeMap.getElem?_insert, Ne.symm hp]

/-- The entry at a place whose directory is there, if there is one; long names are refused. -/
def find? (t : FileTree) (place : Place) : Except FileFault (Option Entry) :=
  if place.getLast?.any fun name => Path.longestName < name.utf8ByteSize then
    .error .nameTooLong
  else .ok (t.lookup place)

/-- Follows steps from one directory to another. -/
def walk (t : FileTree) : Place → List String → Except FileFault Place
  | here, [] => .ok here
  | here, "." :: rest => walk t here rest
  | here, ".." :: rest => walk t here.dropLast rest
  | here, name :: rest =>
    match t.find? (here ++ [name]) with
    | .error fault => .error fault
    | .ok none => .error .notFound
    | .ok (some (.file _)) => .error .notDirectory
    | .ok (some .dir) => walk t (here ++ [name]) rest

/-- The place where a path starts. -/
def start (t : FileTree) (path : String) : Place :=
  if Path.isAbsolute path then [] else t.home

/-- The place that steps lead to; the last name need not be there. -/
def locate (t : FileTree) (here : Place) (steps : List String) : Except FileFault Place :=
  match steps.getLast? with
  | none => .ok here
  | some last =>
    if last = "." ∨ last = ".." then t.walk here steps
    else do
      let parent ← t.walk here steps.dropLast
      return parent ++ [last]

/-- The steps lead to a directory. -/
def isDir (t : FileTree) (here : Place) (steps : List String) : Bool :=
  match t.walk here steps with
  | .ok _ => true
  | .error _ => false

end FileTree

/-! ## Work on a tree -/

/-- Work on a tree that may fail. -/
abbrev FileWork := ExceptT FileFault (StateM FileTree)

namespace FileWork

/-- Refuses a path with a NUL character, and one that is too long. -/
def checkPath (path : String) : FileWork Unit :=
  if path.toList.contains '\x00' then throw .nulInPath
  else if Path.longest < path.utf8ByteSize then throw .nameTooLong
  else pure ()

/-- The entry at a place whose directory is there. -/
def find? (place : Place) : FileWork (Option Entry) := do
  match (← get).find? place with
  | .ok entry => return entry
  | .error fault => throw fault

/-- Puts an entry at a place. -/
def put (place : Place) (entry : Entry) : FileWork Unit :=
  modify fun tree => tree.set place entry

/-- The place of a path. -/
def placeOf (path : String) : FileWork Place := do
  checkPath path
  if path.isEmpty then throw .notFound
  let tree ← get
  match tree.locate (tree.start path) (Path.steps path) with
  | .ok place => return place
  | .error fault => throw fault

/-- Makes one directory. -/
def makeDir (here : Place) (steps : List String) : FileWork Unit := do
  match (← get).locate here steps with
  | .error fault => throw fault
  | .ok place =>
    match ← find? place with
    | some _ => throw .alreadyExists
    | none => put place .dir

/-- Makes one directory, or keeps the one that is there. -/
def makeOrKeepDir (here : Place) (steps : List String) : FileWork Unit :=
  tryCatch (makeDir here steps) fun fault => do
    if (← get).isDir here steps then pure () else throw fault

/-- Follows steps, and makes the directories that are missing on the way. -/
def makeAlong : Place → List String → FileWork Unit
  | _, [] => pure ()
  | here, "." :: rest => makeAlong here rest
  | here, ".." :: rest => makeAlong here.dropLast rest
  | here, name :: rest => do
    match ← find? (here ++ [name]) with
    | some (.file _) => throw .alreadyExists
    | some .dir => pure ()
    | none => put (here ++ [name]) .dir
    makeAlong (here ++ [name]) rest

/--
Makes a directory and those above it where they are missing; an empty path asks for none.
Nothing is made if something else than a missing directory is in the way at first.
-/
def makeDirs (path : String) : FileWork Unit := do
  if path.isEmpty then pure ()
  else
    checkPath path
    let here := (← get).start path
    let steps := Path.steps path
    tryCatch (makeOrKeepDir here steps) fun fault => do
      if fault = .notFound then
        makeAlong here (Path.steps ((Path.parent? path).getD ""))
        makeOrKeepDir here steps
      else throw fault

/-- Makes the directory of a path to a file, and those above it. -/
def makeParentDirs (path : String) : FileWork Unit :=
  match Path.parent? path with
  | none => pure ()
  | some parent => makeDirs parent

/-- Creates a file, or empties the one that is there; yields its place. -/
def createFile (path : String) : FileWork Place := do
  let place ← placeOf path
  if Path.endsWithSlash path then throw .isDirectory
  match ← find? place with
  | some .dir => throw .isDirectory
  | _ =>
    put place (.file .empty)
    return place

/-- Gives a file that was created its contents. -/
def fillFile (place : Place) (text : String) : FileWork Unit :=
  put place (.file text.toByteArray)

/-- Writes a file. -/
def writeFile (path text : String) : FileWork Unit := do
  let place ← createFile path
  fillFile place text

/-- Opens what stands at a path; a directory can be opened, though not read. -/
def openEntry (path : String) : FileWork Entry := do
  let place ← placeOf path
  match ← find? place with
  | none => throw .notFound
  | some .dir => return .dir
  | some (.file bytes) =>
    if Path.endsWithSlash path then throw .notDirectory else return .file bytes

/-- Reads a file as text. -/
def readText (path : String) : FileWork String := do
  match ← openEntry path with
  | .dir => throw .isDirectory
  | .file bytes =>
    match String.fromUTF8? bytes with
    | some text => return text
    | none => throw .notText

end FileWork

end LinkedDocs
