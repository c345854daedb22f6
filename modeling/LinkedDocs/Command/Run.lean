import LinkedDocs.Command.Arguments
import LinkedDocs.Evaluation.Run
import LinkedDocs.Generation.Run
import LinkedDocs.Json.Printer

/-!
# Running the program

The options are loaded and overridden, the dataset is generated, the report is
written if a path for it is given, and the dataset is read back and checked if
that is asked for. The check uses the directory and the header flag that the
generation used.

* `generate`, `conclude`: the two halves, so that the report can be given the
  time that the first half took.
* `run`: both.
* `Error.message`, `Error.detail`: an error in words, and with all its causes.
-/

namespace LinkedDocs.Command

/-- Why a run of the program fails. -/
inductive Error where
  | config (e : Config.Error)
  | generation (e : Generation.Error)
  | evaluation (e : Evaluation.Error)
  | file (fault : FileFault)
  deriving Repr

/-- The words for an error. -/
def Error.message : Error → String
  | config e => "config error: " ++ e.message
  | generation e => "generation error: " ++ e.message
  | evaluation e => "verification error: " ++ e.message
  | file fault => "io error: " ++ fault.message

/-! ## Steps -/

/-- Writes the report as JSON, and makes the directories above it. -/
def writeReport (path : String) (report : Generation.Report) : FileWork Unit := do
  FileWork.makeParentDirs path
  FileWork.writeFile path (Json.pretty report.toValue)

/-- The options of the configuration file with the values of the arguments. -/
def loadOptions (arguments : Arguments) : SessionWork Error Generation.Options := do
  let options ← SessionWork.within .config (Config.load arguments.config)
  return arguments.overrides.apply options

/-- Generates the dataset with the given options. -/
def generate (surroundings : Generation.Surroundings) (arguments : Arguments)
    (options : Generation.Options) : SessionWork Error Generation.Report :=
  SessionWork.within .generation (Generation.run options surroundings arguments.count)

/-- Reads the dataset back and checks it. -/
def verify (options : Generation.Options) : SessionWork Error Unit := do
  let result ← SessionWork.within .evaluation
    (Evaluation.run { headers := options.headers } options.outDir)
  SessionWork.log .info "dataset verified"
    [("dataset_dir", .string result.datasetDir), ("main_rows", .ofNat result.summary.mainRows)]

/-- What follows the generation: the report and the check. -/
def conclude (arguments : Arguments) (options : Generation.Options)
    (report : Generation.Report) : SessionWork Error Unit := do
  if let some path := arguments.report then
    SessionWork.onTree .file (writeReport path report)
    SessionWork.log .info "report written" [("path", .string path)]
  if arguments.verify then
    verify options

/-- A run of the program. -/
def run (surroundings : Generation.Surroundings) (arguments : Arguments) :
    SessionWork Error Unit := do
  let options ← loadOptions arguments
  let report ← generate surroundings arguments options
  conclude arguments options report

/-! ## Details of errors -/

/-- A part of an error inside its kind. -/
def caused (kind cause : String) : String := kind ++ "(" ++ cause ++ ")"

/-- The fields of a part of an error. -/
def described (kind : String) (fields : List (String × String)) : String :=
  kind ++ " \x7b " ++ ", ".intercalate (fields.map fun (name, text) => name ++ ": " ++ text)
    ++ " \x7d"

/-- A fault of the operating system. -/
def systemDetail (code : Nat) (kind message : String) : String :=
  described "Os" [("code", Text.decimal code), ("kind", kind), ("message", Text.quoted message)]

/-- A fault that is found before the operating system is asked. -/
def plainDetail (kind message : String) : String :=
  described "Error" [("kind", kind), ("message", Text.quoted message)]

/-- The details of a fault of a file. -/
def fileDetail : FileFault → String
  | .notFound => systemDetail 2 "NotFound" "No such file or directory"
  | .alreadyExists => systemDetail 17 "AlreadyExists" "File exists"
  | .notDirectory => systemDetail 20 "NotADirectory" "Not a directory"
  | .isDirectory => systemDetail 21 "IsADirectory" "Is a directory"
  | .nameTooLong => systemDetail 36 "InvalidFilename" "File name too long"
  | .nulInPath => plainDetail "InvalidInput" FileFault.nulInPath.message
  | .notText => plainDetail "InvalidData" FileFault.notText.message

/-- The details of a place in a CSV file. -/
def positionDetail (p : Csv.Position) : String :=
  described "Position" [("byte", Text.decimal p.byte), ("line", Text.decimal p.line),
    ("record", Text.decimal p.record)]

/-- The details of a fault of a CSV file. -/
def csvDetail : Csv.Fault → String
  | .file fault => caused "Io" (fileDetail fault)
  | .notText before field byte =>
    described "Utf8" [("pos", caused "Some" (positionDetail before)),
      ("err", described "Utf8Error"
        [("field", Text.decimal field), ("valid_up_to", Text.decimal byte)])]

/-- The details of an error of the generation. -/
def generationDetail : Generation.Error → String
  | .invalidOptions reason => caused "InvalidOptions" (Text.quoted reason)
  | .file fault => caused "Io" (fileDetail fault)
  | .draw fault => caused "Draw" (Text.quoted (Generation.Error.draw fault).message)

/-- The details of an error of the evaluation. -/
def evaluationDetail : Evaluation.Error → String
  | .dataset (.wrongWidth path row expected found) =>
    caused "InvalidDataset" (Text.quoted (Evaluation.widthReason path row expected found))
  | .dataset (.csv fault) => caused "Csv" (caused "Error" (csvDetail fault))
  | .violations count => caused "Violations" (Text.decimal count)

/-- The details of an error of the configuration. -/
def configDetail : Config.Error → String
  | .unreadable path fault =>
    described "Read" [("path", Text.quoted path), ("source", fileDetail fault)]
  | e => caused "Toml" (Text.quoted e.message)

/-- An error with all its causes, as the program reports it. -/
def Error.detail : Error → String
  | config e => caused "Config" (configDetail e)
  | generation e => caused "Generation" (generationDetail e)
  | evaluation e => caused "Eval" (evaluationDetail e)
  | file fault => caused "Io" (fileDetail fault)

end LinkedDocs.Command
