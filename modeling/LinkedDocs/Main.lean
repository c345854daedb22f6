import LinkedDocs.Command.Run
import Std.Time.Zoned

/-!
# The program

The entries that a run may touch are loaded into a file tree, the run works on
the tree, and what it changed is stored again. Events go to standard error, an
event a line; those for debugging are left out.
-/

namespace LinkedDocs.Shell

/-! ## Surroundings -/

/-- The local time. -/
def localTime : IO Calendar.DateTime := do
  let now ← Std.Time.PlainDateTime.now
  let date : Calendar.Date := ⟨now.date.year.toInt, now.date.month.toNat, now.date.day.toNat⟩
  let time := now.time
  match Calendar.DateTime.ofFields? date time.hour.toNat time.minute.toNat time.second.toNat
      time.nanosecond.toNat with
  | some t => return t
  | none => throw (IO.userError "the clock shows no date of the calendar")

/-- A seed from the randomness of the system. -/
def freshSeed : IO Nat := do
  let bytes ← IO.getRandomBytes 8
  return bytes.foldl (fun n b => n * 256 + b.toNat) 0

/-! ## Files -/

/-- The path of a place. -/
def pathOf (place : Place) : String := "/" ++ "/".intercalate place

/-- What stands at a place. -/
def entryAt (place : Place) : IO (Option Entry) := do
  match ← (IO.FS.Handle.mk (pathOf place) .read).toBaseIO with
  | .error _ => return none
  | .ok handle =>
    match ← handle.readBinToEnd.toBaseIO with
    | .ok bytes => return some (.file bytes)
    | .error _ => return some .dir

/-- Loads the entries along steps from a place. -/
def loadAlong (tree : FileTree) (here : Place) : List String → IO FileTree
  | [] => return tree
  | "." :: rest => loadAlong tree here rest
  | ".." :: rest => loadAlong tree here.dropLast rest
  | name :: rest => do
    let place := here ++ [name]
    if (tree.lookup place).isSome then
      loadAlong tree place rest
    else
      match ← entryAt place with
      | some entry => loadAlong (tree.set place entry) place rest
      | none => return tree

/-- Loads the entries along a path. -/
def loadPath (tree : FileTree) (path : String) : IO FileTree :=
  loadAlong tree (tree.start path) (Path.steps path)

/-- The tree of the working directory and those above it. -/
def workingTree : IO FileTree := do
  let home := Path.steps (← IO.currentDir).toString
  loadAlong { home } [] home

/-- Stores an entry in place of what was there before. -/
def storeEntry (path : String) (before : Option Entry) : Entry → IO Unit
  | .dir => IO.FS.createDirAll path
  | .file bytes =>
    match before with
    | some (.file old) => if old.data ≠ bytes.data then IO.FS.writeBinFile path bytes else pure ()
    | _ => IO.FS.writeBinFile path bytes

/-- Stores the entries that differ from those before, directories ahead of what they hold. -/
def store (before after : FileTree) : IO Unit := do
  for (place, entry) in after.entries.toList do
    storeEntry (pathOf place) (before.lookup place) entry

/-! ## Events -/

/-- The value of a field in a line of text. -/
def fieldText : Value → String
  | .string s => s
  | v => Json.compact v

/-- An event as a line. -/
def eventLine (format : Command.LogFormat) (e : Log.Event) : String :=
  match format with
  | .text =>
    " ".intercalate
      ([e.level.label, e.message] ++ e.fields.map fun (name, v) => name ++ "=" ++ fieldText v)
  | .json =>
    Json.compact (.object [("level", .string e.level.label),
      ("fields", .object (("message", .string e.message) :: e.fields))])

/-- Prints the events of a session. -/
def printEvents (format : Command.LogFormat) (session : Session) : IO Unit := do
  for event in session.events.reverse do
    if event.level ≠ .debug then
      IO.eprintln (eventLine format event)

/-! ## Runs -/

/-- Generates the dataset, and concludes with the time that took. -/
def work (arguments : Command.Arguments) (options : Generation.Options) (session : Session) :
    IO (Except Command.Error Unit × Session) := do
  let surroundings := { freshSeed := ← freshSeed, localTime := ← localTime }
  let start ← IO.monoMsNow
  match Command.generate surroundings arguments options session with
  | (.error e, session) => return (.error e, session)
  | (.ok report, session) =>
    let durationMs := (← IO.monoMsNow) - start
    return Command.conclude arguments options { report with durationMs } session

/-- Runs the program in the working directory; yields its exit code. -/
def run (arguments : Command.Arguments) : IO UInt32 := do
  let tree ← workingTree
  let tree ← match arguments.config with
    | some path => loadPath tree path
    | none => pure tree
  match Command.loadOptions arguments { tree } with
  | (.error e, _) =>
    IO.eprintln ("Error: " ++ e.detail)
    return 1
  | (.ok options, session) =>
    let paths := Dataset.Paths.inDir options.outDir
    let before ← ([options.outDir, paths.main, paths.child, paths.inline]
      ++ arguments.report.toList).foldlM loadPath session.tree
    let (outcome, session) ← work arguments options { session with tree := before }
    store before session.tree
    printEvents arguments.logFormat session
    match outcome with
    | .ok _ => return 0
    | .error e =>
      IO.eprintln ("Error: " ++ e.detail)
      return 1

end LinkedDocs.Shell

/-- Generates a dataset as the arguments say. -/
def main (arguments : List String) : IO UInt32 := do
  match LinkedDocs.Command.Arguments.parse arguments with
  | .ok arguments => LinkedDocs.Shell.run arguments
  | .error refusal =>
    if refusal = .help ∨ refusal = .version then
      IO.print refusal.message
      return 0
    else
      IO.eprintln ("error: " ++ refusal.message)
      return 2
