import LinkedDocs.Dataset.Reader
import LinkedDocs.Evaluation.Options
import LinkedDocs.Evaluation.Result
import LinkedDocs.Evaluation.Rules
import LinkedDocs.Session
import Std.Data.HashSet

/-!
# Evaluating a dataset

The groups of a dataset are checked one after the other, and then the rows that
no group took. A tally counts the rows and the violations and keeps the first
violations as examples.

* `Tally.checkGroup`: a main row, its children, its inline rows, its orphans.
* `tallyReader`: all that a reader yields, or the first row that cannot be read.
* `run`: the evaluation of a directory, with its log; in strict mode any
  violation is an error.
-/

namespace LinkedDocs.Evaluation

open Dataset

/-! ## The tally -/

/-- What was found so far. -/
structure Tally where
  /-- The greatest number of violations that are kept. -/
  most : Nat
  /-- The ids of the checked rows. -/
  seen : Std.HashSet String := ∅
  summary : Summary := {}
  violationCount : Nat := 0
  /-- The first violations. -/
  examples : Array Violation := #[]

namespace Tally

/-- One violation more. -/
def report (t : Tally) (v : Violation) : Tally :=
  { t with
    violationCount := t.violationCount + 1
    examples := if t.examples.size < t.most then t.examples.push v else t.examples }

/-- Violations more. -/
def reportAll (t : Tally) (violations : List Violation) : Tally := violations.foldl report t

/-- Changes the numbers of rows. -/
def count (t : Tally) (change : Summary → Summary) : Tally :=
  { t with summary := change t.summary }

/-- A checked row has the id. -/
def hasSeen (t : Tally) (id : String) : Bool := t.seen.contains id

/-- One id more. -/
def see (t : Tally) (id : String) : Tally := { t with seen := t.seen.insert id }

/-- Checks a main row as number `expected`. -/
def checkMain (t : Tally) (row : MainRow) (expected : Nat) : Tally :=
  let repeated := t.hasSeen row.id
  let deleted := deletedFlag? row.deleted = some true
  ((t.see row.id).count fun s =>
      { s with deletedRows := s.deletedRows + if deleted then 1 else 0 }).reportAll
    (mainViolations row expected repeated)

/-- Checks the rows of a batch from place `sequence` on. -/
def checkRows (t : Tally) (kind : RelatedKind) (parent sequence : Nat) :
    List RelatedRow → Tally
  | [] => t
  | row :: rest =>
    let repeated := t.hasSeen row.id
    ((t.see row.id).reportAll (relatedViolations kind parent sequence row repeated)).checkRows
      kind parent (sequence + 1) rest

/-- Adds rows of a kind to the summary. -/
def addRows (kind : RelatedKind) (n : Nat) (s : Summary) : Summary :=
  match kind with
  | .child => { s with childRows := s.childRows + n }
  | .inline => { s with inlineRows := s.inlineRows + n }

/-- Checks the batch of a main row that counts as main document `parent`. -/
def checkBatch (t : Tally) (kind : RelatedKind) (main : MainRow) (parent : Nat)
    (rows : List RelatedRow) : Tally :=
  ((t.count (addRows kind rows.length)).reportAll (sizeViolations kind main rows.length)).checkRows
    kind parent 0 rows

/-- Counts and reports a row without a main row. -/
def orphan (t : Tally) (row : RelatedRow) : Tally :=
  (t.count fun s => { s with orphanRows := s.orphanRows + 1 }).report (orphanViolation row)

/--
Checks a group. Its related rows are held against the index that the main row
claims, or else against the number of the row, so that one misnumbered main row
does not count against the rows that belong to it.
-/
def checkGroup (t : Tally) (group : Group) : Tally :=
  let expected := t.summary.mainRows
  let parent := group.main.index?.getD expected
  let t := (t.count fun s => { s with mainRows := s.mainRows + 1 }).checkMain group.main expected
  let t := t.checkBatch .child group.main parent group.children
  let t := t.checkBatch .inline group.main parent group.inlines
  group.orphans.foldl orphan t

end Tally

/-! ## Reading and checking -/

/-- Checks up to `n` groups of a reader. -/
def tallyGroups (n : Nat) (t : Tally) (r : Reader) : Except ReadError (Tally × Reader) :=
  match n with
  | 0 => .ok (t, r)
  | n + 1 =>
    match r.nextGroup with
    | (.error e, _) => .error e
    | (.ok none, r) => .ok (t, r)
    | (.ok (some group), r) => tallyGroups n (t.checkGroup group) r

/-- Checks everything that a reader yields; each group takes one main row. -/
def tallyReader (t : Tally) (r : Reader) : Except ReadError Tally :=
  match tallyGroups (r.main.length + 1) t r with
  | .error e => .error e
  | .ok (t, r) =>
    match r.remaining with
    | (.error e, _) => .error e
    | (.ok rows, _) => .ok (rows.foldl Tally.orphan t)

/-! ## Evaluating a directory -/

/-- Why an evaluation yields no result. -/
inductive Error where
  | dataset (e : ReadError)
  | violations (count : Nat)
  deriving DecidableEq, Repr

/-- Why a row is refused, in words. -/
def widthReason (path : String) (row expected found : Nat) : String :=
  path ++ " row " ++ Text.decimal row ++ ": expected " ++ Text.decimal expected
    ++ " columns, found " ++ Text.decimal found

/-- The words for an error. -/
def Error.message : Error → String
  | dataset (.wrongWidth path row expected found) =>
    "invalid dataset: " ++ widthReason path row expected found
  | dataset (.csv fault) => "csv error: " ++ fault.message
  | violations count => "validation failed with " ++ Text.decimal count ++ " violation(s)"

/-- Opens and checks the dataset of a directory. -/
def tallyDir (options : Options) (dir : String) : SessionWork Error Tally := do
  let reader ← SessionWork.onTree (fun fault => .dataset (.csv (.file fault)))
    (Reader.openDir dir options.headers)
  match tallyReader { most := options.maxExamples } reader with
  | .ok t => return t
  | .error e => throw (.dataset e)

/-- The result of a tally. -/
def Tally.toResult (t : Tally) (dir : String) : Result where
  datasetDir := dir
  summary := t.summary
  violationCount := t.violationCount
  violations := t.examples.toList

/-- Logs the kept violations. -/
def logViolations : List Violation → SessionWork Error Unit
  | [] => pure ()
  | v :: rest => do
    SessionWork.log .warn v.message [("code", .string v.code), ("path", .string v.path)]
    logViolations rest

/-- Evaluates the dataset of a directory. -/
def run (options : Options) (dir : String) : SessionWork Error Result := do
  SessionWork.log .info "evaluation started" [("dataset_dir", .string dir)]
  let tally ← tallyDir options dir
  let result := tally.toResult dir
  SessionWork.log .info "evaluation finished"
    [("main_rows", .ofNat result.summary.mainRows),
      ("child_rows", .ofNat result.summary.childRows),
      ("inline_rows", .ofNat result.summary.inlineRows),
      ("deleted_rate", .string result.summary.deletedRateText),
      ("violations", .ofNat result.violationCount)]
  if options.strict && !result.isClean then
    logViolations result.violations
    throw (.violations result.violationCount)
  return result

end LinkedDocs.Evaluation
