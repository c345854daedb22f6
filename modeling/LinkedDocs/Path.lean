/-!
# Paths

A path is kept as it was written. Its steps are the names between slashes;
doubled slashes and one at the end add no step.

* `join`: a name below a directory, with one slash between.
* `parent?`: the text of a path up to the directory that holds it.
-/

namespace LinkedDocs.Path

/-- The longest path that can be used, in bytes. -/
def longest : Nat := 4095

/-- The longest name of a file or directory, in bytes. -/
def longestName : Nat := 255

/-- The texts between the slashes of a path. -/
def segments (path : String) : List (List Char) := path.toList.splitOn '/'

/-- The names of a path, `.` and `..` included. -/
def steps (path : String) : List String :=
  ((segments path).filter (!·.isEmpty)).map String.ofList

/-- The path begins at the root. -/
def isAbsolute (path : String) : Bool := path.toList.head? = some '/'

/-- The path ends with a slash. -/
def endsWithSlash (path : String) : Bool := path.toList.getLast? = some '/'

/-- A name below a directory; the text of the directory is kept. -/
def join (dir name : String) : String :=
  if dir.isEmpty || endsWithSlash dir then dir ++ name else dir ++ "/" ++ name

/-- A segment that leads nowhere. -/
def isIdle (segment : List Char) : Bool := segment = [] || segment = ['.']

/-- Segments without the idle ones at their end. -/
def dropIdle (segments : List (List Char)) : List (List Char) :=
  (segments.reverse.dropWhile isIdle).reverse

/--
The path of the directory that holds a path, as far as the text of the path tells: the text
before its last step. A `.` counts as a step only in front. A single step is held by the empty
path; the empty path and the root have no parent.
-/
def parent? (path : String) : Option String :=
  match segments path with
  | [] => none
  | first :: rest =>
    match dropIdle rest with
    | [] => if first.isEmpty then none else some ""
    | rest =>
      match first, dropIdle rest.dropLast with
      | [], [] => some "/"
      | first, rest => some ("/".intercalate ((first :: rest).map String.ofList))

end LinkedDocs.Path
