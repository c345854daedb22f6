import LinkedDocs.Dataset.Writer
import LinkedDocs.Generation.Report
import LinkedDocs.Generator
import LinkedDocs.Random.ChaCha
import LinkedDocs.Session

/-!
# Generating a dataset

For each index the main document is written first, then its children, then its
inline documents, all drawn from one source. Nothing is written before the
directory and the three files are there.

* `writeDocuments`: a number of main documents and all that belongs to them.
* `runFrom`: a run with a source of one's own.
* `run`: a run with the stream of the seed of the options, or of a fresh seed.
-/

namespace LinkedDocs.Generation

open LinkedDocs.Random Calendar

/-- Why a run yields no report. -/
inductive Error where
  | invalidOptions (reason : String)
  | file (fault : FileFault)
  | draw (fault : DrawFault)
  deriving DecidableEq, Repr

/-- The words for an error. -/
def Error.message : Error → String
  | invalidOptions reason => "invalid options: " ++ reason
  | file fault => "io error: " ++ fault.message
  | draw .exhausted => "the random source ran dry"
  | draw .emptyRange => "cannot sample empty range"
  | draw .dateOverflow => "the date lies past the end of the calendar"
  | draw .listTooLong => "more texts were asked for than a list can hold"
  | draw .endless => "no text can be drawn"

/-- What a run takes from its surroundings where the options leave it open. -/
structure Surroundings where
  freshSeed : Nat
  localTime : DateTime

/-- A run in progress: the source, the files and the rows written. -/
structure Progress (σ : Type) where
  source : Source σ
  writer : Dataset.Writer
  rows : RowCounts

variable {σ : Type} [WordStream σ]

/-- Writes up to `n` further documents of a batch. -/
def writeBatch [Lexicon σ] (batch : Generator.Batch) (n : Nat) (p : Progress σ) :
    Except DrawFault (Progress σ) :=
  match n with
  | 0 => .ok p
  | n + 1 =>
    let ⟨source, writer, rows⟩ := p
    match batch.next? source with
    | .error fault => .error fault
    | .ok (none, source) => .ok ⟨source, writer, rows⟩
    | .ok (some (record, batch), source) =>
      writeBatch batch n
        ⟨source, writer.writeRelated batch.kind record, rows.addRelated batch.kind⟩

/-- Writes the batches of main document `index`, one kind after the other. -/
def writeBatches [Lexicon σ] (index : Nat) (kinds : List RelatedKind) (p : Progress σ) :
    Except DrawFault (Progress σ) :=
  match kinds with
  | [] => .ok p
  | kind :: kinds =>
    let ⟨source, writer, rows⟩ := p
    match Generator.Batch.start kind index source with
    | .error fault => .error fault
    | .ok (batch, source) =>
      match writeBatch batch batch.length ⟨source, writer, rows⟩ with
      | .error fault => .error fault
      | .ok p => writeBatches index kinds p

/-- Writes main document `index` and all that belongs to it. -/
def writeDocument [Lexicon σ] (reference : DateTime) (index : Nat) (p : Progress σ) :
    Except DrawFault (Progress σ) :=
  let ⟨source, writer, rows⟩ := p
  match Generator.mainRecord reference index source with
  | .error fault => .error fault
  | .ok (record, source) =>
    writeBatches index RelatedKind.all
      ⟨source, writer.writeMain record, rows.addMain record.deleted⟩

/-- Writes `n` main documents from `index` on, and all that belongs to them. -/
def writeDocuments [Lexicon σ] (reference : DateTime) (index n : Nat) (p : Progress σ) :
    Except DrawFault (Progress σ) :=
  match n with
  | 0 => .ok p
  | n + 1 =>
    match writeDocument reference index p with
    | .error fault => .error fault
    | .ok p => writeDocuments reference (index + 1) n p

/-- Progress is logged each time this many main documents are written. -/
def progressEvery : Nat := 10000

/-- The logged numbers of main documents up to `count`. -/
def progressMarks (count : Nat) : List Nat :=
  (List.range (count / progressEvery)).map fun i => (i + 1) * progressEvery

/-- Logs that the given numbers of main documents, of `total`, were written. -/
def logProgress (total : Nat) : List Nat → SessionWork Error Unit
  | [] => pure ()
  | written :: rest => do
    SessionWork.log .debug "generation progress"
      [("main_rows", .ofNat written), ("total", .ofNat total)]
    logProgress total rest

/-- A run with the given source. -/
def runFrom [Lexicon σ] (options : Options) (localTime : DateTime) (count : Nat)
    (source : Source σ) : SessionWork Error Report := do
  if options.outDir.isEmpty then
    throw (.invalidOptions "out_dir must not be empty")
  SessionWork.onTree .file (FileWork.makeDirs options.outDir)
  let paths := Dataset.Paths.inDir options.outDir
  SessionWork.log .info "generation started"
    [("count", .ofNat count), ("out_dir", .string options.outDir),
      ("headers", .bool options.headers)]
  let writer ← tryCatch
    (SessionWork.onTree .file (Dataset.Writer.create paths options.headers))
    fun error => do
      SessionWork.log .warn "generation aborted; outputs are incomplete"
        [("error", .string error.message), ("main_rows", .ofNat 0)]
      throw error
  let reference := options.referenceTime.getD localTime
  match writeDocuments reference 0 count ⟨source, writer, {}⟩ with
  | .error fault => throw (.draw fault)
  | .ok p =>
    logProgress count (progressMarks count)
    let sizes ← SessionWork.onTree .file p.writer.finish
    SessionWork.log .info "generation completed"
      [("main_rows", .ofNat p.rows.main), ("child_rows", .ofNat p.rows.child),
        ("inline_rows", .ofNat p.rows.inline), ("deleted_rows", .ofNat p.rows.deleted),
        ("bytes_written", .ofNat sizes.total)]
    return {
      count
      rows := p.rows
      bytesWritten := sizes.total
      durationMs := 0
      seed := options.seed
      paths }

/-- The whole key stream of a seed. -/
def seededSource (seed : Nat) : Source ChaCha.Stream :=
  { stream := .seeded seed, limit := ChaCha.period }

/-- A run with the key stream of the seed of the options, or of a fresh seed. -/
def run (options : Options) (surroundings : Surroundings) (count : Nat) :
    SessionWork Error Report := do
  let seed := options.seed.getD surroundings.freshSeed
  let report ← runFrom options surroundings.localTime count (seededSource seed)
  return { report with seed := some seed }

end LinkedDocs.Generation
