import LinkedDocs.Generation.Options
import LinkedDocs.Session
import LinkedDocs.Toml.Reader

/-!
# Configuration

The options of a generation run come from a TOML file, or are the defaults if
there is none; each value given beside the file wins over it.

* `parse`, `load`: options from a text and from a file.
* `Overrides.apply`: values given beside the file.
-/

namespace LinkedDocs.Config

/-- Why a configuration yields no options. -/
inductive Error where
  /-- The file cannot be read. -/
  | unreadable (path : String) (fault : FileFault)
  /-- The text is not a TOML document. -/
  | notToml
  /-- An option has a value of the wrong type. -/
  | mistyped (fault : Value.DecodeFault)
  deriving Repr

/-- The words for an error. -/
def Error.message : Error → String
  | unreadable path fault => "failed to read config " ++ path ++ ": " ++ fault.message
  | notToml => "not a TOML document"
  | mistyped fault => fault.message .positional

/-- The options of a text. -/
def parse (text : String) : Except Error Generation.Options :=
  match Toml.read text with
  | none => .error .notToml
  | some document =>
    match Generation.Options.ofValue document with
    | .ok options => .ok options
    | .error fault => .error (.mistyped fault)

/-- The options of a file, or the defaults. -/
def load : Option String → SessionWork Error Generation.Options
  | none => return {}
  | some path => do
    let text ← SessionWork.onTree (.unreadable path) (FileWork.readText path)
    match parse text with
    | .ok options => return options
    | .error e => throw e

/-- Values given beside a configuration file. -/
structure Overrides where
  outDir : Option String := none
  seed : Option Nat := none
  headers : Bool := false
  deriving DecidableEq, Repr

/-- Each value that is given takes the place of the option; headers can only be asked for. -/
def Overrides.apply (o : Overrides) (options : Generation.Options) : Generation.Options :=
  { options with
    outDir := o.outDir.getD options.outDir
    seed := o.seed.or options.seed
    headers := o.headers || options.headers }

end LinkedDocs.Config
