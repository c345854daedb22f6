import LinkedDocs.Config
import LinkedDocs.Text.Decimal

/-!
# Command line arguments

One number, the count of main documents, and options. An option that takes a
value takes it from the next argument, or after `=`; a short option also takes
the letters behind it. After `--` every argument is a number. A value is checked
when the next option or number begins, or at the end, so an unknown option wins
over a bad value right before it.

* `Arguments.parse`: the arguments, or why they are refused.
* `helpText`, `versionText`: what is printed on request.
-/

namespace LinkedDocs.Command

/-- How log events are printed. -/
inductive LogFormat where
  | text
  | json
  deriving DecidableEq, Repr

/-- The format of a name. -/
def LogFormat.ofName? : String → Option LogFormat
  | "text" => some text
  | "json" => some json
  | _ => none

/-- The arguments of the program. -/
structure Arguments where
  count : Nat := 1000
  outDir : Option String := none
  seed : Option Nat := none
  headers : Bool := false
  config : Option String := none
  report : Option String := none
  verify : Bool := false
  logFormat : LogFormat := .text
  deriving DecidableEq, Repr

/-- The values that win over the configuration file. -/
def Arguments.overrides (a : Arguments) : Config.Overrides where
  outDir := a.outDir
  seed := a.seed
  headers := a.headers

/-- An option that takes a value; the count is one without a name. -/
inductive ValueOption where
  | count
  | outDir
  | seed
  | config
  | report
  | logFormat
  deriving DecidableEq, Repr

/-- An option without a value. -/
inductive FlagOption where
  | headers
  | verify
  | help
  | version
  deriving DecidableEq, Repr

/-- An option of either sort. -/
inductive CommandOption where
  | value (o : ValueOption)
  | flag (o : FlagOption)
  deriving DecidableEq, Repr

/-- The option of a long name. -/
def CommandOption.ofName? : String → Option CommandOption
  | "out-dir" => some (.value .outDir)
  | "seed" => some (.value .seed)
  | "headers" => some (.flag .headers)
  | "config" => some (.value .config)
  | "report" => some (.value .report)
  | "verify" => some (.flag .verify)
  | "log-format" => some (.value .logFormat)
  | "help" => some (.flag .help)
  | "version" => some (.flag .version)
  | _ => none

/-- The option of a letter. -/
def CommandOption.ofLetter? : Char → Option CommandOption
  | 'o' => some (.value .outDir)
  | 'h' => some (.flag .help)
  | 'V' => some (.flag .version)
  | _ => none

/-- How an option is named in messages. -/
def CommandOption.label : CommandOption → String
  | value .count => "[COUNT]"
  | value .outDir => "--out-dir <OUT_DIR>"
  | value .seed => "--seed <SEED>"
  | value .config => "--config <FILE>"
  | value .report => "--report <FILE>"
  | value .logFormat => "--log-format <LOG_FORMAT>"
  | flag .headers => "--headers"
  | flag .verify => "--verify"
  | flag .help => "--help"
  | flag .version => "--version"

/-- Why the program does not start. -/
inductive Refusal where
  /-- There is no such option, or no place for another number. -/
  | unknownArgument (argument : String)
  /-- The value is missing, empty or not one of those offered. -/
  | invalidValue (o : CommandOption)
  /-- The value is no number of 64 bits. -/
  | badNumber (o : CommandOption) (text : String)
  /-- The option takes no value. -/
  | tooManyValues (o : CommandOption)
  /-- The option was given before. -/
  | repeated (o : CommandOption)
  /-- Help was asked for. -/
  | help
  /-- The version was asked for. -/
  | version
  deriving DecidableEq, Repr

/-! ## Values -/

/-- A number of 64 bits; a plus sign may stand in front. -/
def number? (text : String) : Option Nat :=
  match text.toList with
  | '+' :: digits => Text.natBelow? Text.word64 digits
  | digits => Text.natBelow? Text.word64 digits

/-- A number for an option. -/
def readNumber (o : ValueOption) (text : String) : Except Refusal Nat :=
  match number? text with
  | some n => .ok n
  | none => .error (.badNumber (.value o) text)

/-- A path for an option. -/
def readPath (o : ValueOption) (text : String) : Except Refusal String :=
  if text.isEmpty then .error (.invalidValue (.value o)) else .ok text

/-- The arguments with the value of an option. -/
def Arguments.setValue (a : Arguments) (o : ValueOption) (text : String) :
    Except Refusal Arguments :=
  match o with
  | .count => do return { a with count := ← readNumber o text }
  | .seed => do return { a with seed := some (← readNumber o text) }
  | .outDir => do return { a with outDir := some (← readPath o text) }
  | .config => do return { a with config := some (← readPath o text) }
  | .report => do return { a with report := some (← readPath o text) }
  | .logFormat =>
    match LogFormat.ofName? text with
    | some format => .ok { a with logFormat := format }
    | none => .error (.invalidValue (.value o))

/-- The arguments with a flag; help and version end the reading. -/
def Arguments.setFlag (a : Arguments) : FlagOption → Except Refusal Arguments
  | .headers => .ok { a with headers := true }
  | .verify => .ok { a with verify := true }
  | .help => .error .help
  | .version => .error .version

/-! ## Reading -/

/-- An option whose value is not checked yet, or not even there. -/
structure Pending where
  option : ValueOption
  text : Option String
  deriving DecidableEq, Repr

/-- The arguments read so far. -/
structure Progress where
  arguments : Arguments := {}
  /-- The options that were given and checked. -/
  given : List CommandOption := []
  pending : Option Pending := none
  /-- The number has been given. -/
  counted : Bool := false
  /-- Only numbers may follow. -/
  numbersOnly : Bool := false

namespace Progress

/-- Marks an option as given; none may be given twice. -/
def mark (p : Progress) (o : CommandOption) : Except Refusal Progress :=
  if o ∈ p.given then .error (.repeated o) else .ok { p with given := o :: p.given }

/-- Gives an option its value. -/
def give (p : Progress) (o : ValueOption) (text : String) : Except Refusal Progress := do
  let p ← p.mark (.value o)
  return { p with arguments := ← p.arguments.setValue o text }

/-- Checks the value that is pending. -/
def settle (p : Progress) : Except Refusal Progress :=
  match p.pending with
  | none => .ok p
  | some ⟨o, none⟩ => .error (.invalidValue (.value o))
  | some ⟨o, some text⟩ => { p with pending := none }.give o text

/-- Reads an option with the value that is attached to it, if any. -/
def takeOption (p : Progress) (o : CommandOption) (attached : Option String) :
    Except Refusal Progress :=
  match o, attached with
  | .value o, some text => do (← p.settle).give o text
  | .value o, none => do return { ← p.settle with pending := some ⟨o, none⟩ }
  | .flag o, some _ => .error (.tooManyValues (.flag o))
  | .flag o, none => do
    let p ← p.settle
    let p ← if o = .help ∨ o = .version then .ok p else p.mark (.flag o)
    return { p with arguments := ← p.arguments.setFlag o }

/-- Reads a number. -/
def takeNumber (p : Progress) (text : String) : Except Refusal Progress :=
  if p.counted then .error (.unknownArgument text)
  else do return { ← p.settle with pending := some ⟨.count, some text⟩, counted := true }

/-- Reads an argument that is no option: the value that is awaited, or else a number. -/
def takePlain (p : Progress) (text : String) : Except Refusal Progress :=
  match p.pending with
  | some ⟨o, none⟩ => .ok { p with pending := some ⟨o, some text⟩ }
  | _ => p.takeNumber text

/-- Reads an option by its long name, which ends before the first `=`. -/
def takeLong (p : Progress) (body : List Char) : Except Refusal Progress :=
  let name := String.ofList (body.takeWhile (· ≠ '='))
  let attached := match body.dropWhile (· ≠ '=') with
    | [] => none
    | _ :: text => some (String.ofList text)
  match CommandOption.ofName? name with
  | some o => p.takeOption o attached
  | none => .error (.unknownArgument ("--" ++ name))

/-- Reads an option by its letter; what follows the letter is the value of one that takes it. -/
def takeShort (p : Progress) (letter : Char) (rest : List Char) : Except Refusal Progress :=
  match CommandOption.ofLetter? letter with
  | none => .error (.unknownArgument (String.ofList ['-', letter]))
  | some (.flag o) => p.takeOption (.flag o) none
  | some (.value o) =>
    match rest with
    | [] => p.takeOption (.value o) none
    | '=' :: text => p.takeOption (.value o) (some (String.ofList text))
    | text => p.takeOption (.value o) (some (String.ofList text))

/-- Reads one argument. -/
def take (p : Progress) (argument : String) : Except Refusal Progress :=
  if p.numbersOnly then p.takeNumber argument
  else
    match argument.toList with
    | ['-', '-'] => .ok { p with numbersOnly := true }
    | '-' :: '-' :: body => p.takeLong body
    | '-' :: letter :: rest => p.takeShort letter rest
    | _ => p.takePlain argument

end Progress

/-- Reads the arguments of the program. -/
def Arguments.parse (arguments : List String) : Except Refusal Arguments := do
  let p ← arguments.foldlM Progress.take {}
  return (← p.settle).arguments

/-! ## Texts -/

/-- The name of the program. -/
def programName : String := "docseed"

/-- What is printed if the version is asked for. -/
def versionText : String := programName ++ " 0.1.0\n"

/-- What is printed if help is asked for. -/
def helpText : String :=
  "Generate linked main, child and inline CSV datasets\n\n"
    ++ "Usage: docseed [OPTIONS] [COUNT]\n\n"
    ++ "Arguments:\n"
    ++ "  [COUNT]  Number of main documents to generate [default: 1000]\n\n"
    ++ "Options:\n"
    ++ "  -o, --out-dir <OUT_DIR>        Directory the datasets are written to\n"
    ++ "      --seed <SEED>              Seed for a reproducible dataset\n"
    ++ "      --headers                  Write a header row at the top of each dataset\n"
    ++ "      --config <FILE>            TOML file with generation options\n"
    ++ "      --report <FILE>            Write the generation report as JSON\n"
    ++ "      --verify                   Read the datasets back and check them after writing\n"
    ++ "      --log-format <LOG_FORMAT>  Log line format on stderr [default: text] "
    ++ "[possible values: text, json]\n"
    ++ "  -h, --help                     Print help\n"
    ++ "  -V, --version                  Print version\n"

/-- The words for a refusal. -/
def Refusal.message : Refusal → String
  | unknownArgument argument => "unexpected argument '" ++ argument ++ "' found"
  | invalidValue o =>
    "a value is required for '" ++ o.label ++ "' but none of the expected was supplied"
  | badNumber o text => "invalid value '" ++ text ++ "' for '" ++ o.label ++ "'"
  | tooManyValues o => "unexpected value for '" ++ o.label ++ "' found; no more were expected"
  | repeated o => "the argument '" ++ o.label ++ "' cannot be used multiple times"
  | help => helpText
  | version => versionText

end LinkedDocs.Command
