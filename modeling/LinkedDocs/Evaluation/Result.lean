import LinkedDocs.Evaluation.Violation

/-!
# The result of an evaluation

The rows that were seen, the number of violations, and the first of them as
examples.
-/

namespace LinkedDocs.Evaluation

/-- The numbers of rows. -/
structure Summary where
  mainRows : Nat := 0
  childRows : Nat := 0
  inlineRows : Nat := 0
  orphanRows : Nat := 0
  deletedRows : Nat := 0
  deriving DecidableEq, Repr

namespace Summary

/-- The share of main rows that are deleted; none of no rows. -/
def deletedRate (s : Summary) : Magnitude :=
  if s.mainRows = 0 then .ofNat 0 else (Magnitude.ofNat s.deletedRows).div (.ofNat s.mainRows)

/-- The share of deleted rows with six decimals. -/
def deletedRateText (s : Summary) : String := s.deletedRate.fixed 6

/-- The names of the fields, in order. -/
def names : List String := ["main_rows", "child_rows", "inline_rows", "orphan_rows", "deleted_rows"]

/-- The summary as a value. -/
def toValue (s : Summary) : Value :=
  .object [("main_rows", .ofNat s.mainRows), ("child_rows", .ofNat s.childRows),
    ("inline_rows", .ofNat s.inlineRows), ("orphan_rows", .ofNat s.orphanRows),
    ("deleted_rows", .ofNat s.deletedRows)]

/-- The name of the type in faults. -/
def typeName : String := "struct DatasetSummary"

/-- How each field reads. -/
def checks : Value.Checks := names.map fun name => (name, Value.check Value.asNat64)

/-- Reads a summary from an object or from an array in the order of the fields. -/
def ofValue : Value → Value.Decoded Summary
  | .object fields => do
    Value.firstFault checks fields
    let number := Value.required Value.asNat64 fields
    let mainRows ← number "main_rows"
    let childRows ← number "child_rows"
    let inlineRows ← number "inline_rows"
    let orphanRows ← number "orphan_rows"
    let deletedRows ← number "deleted_rows"
    return { mainRows, childRows, inlineRows, orphanRows, deletedRows }
  | .array items => do
    let number (place : Nat) :=
      Value.item Value.asNat64 items place (typeName ++ " with 5 elements")
    let mainRows ← number 0
    let childRows ← number 1
    let inlineRows ← number 2
    let orphanRows ← number 3
    let deletedRows ← number 4
    Value.endOfItems items 5
    return { mainRows, childRows, inlineRows, orphanRows, deletedRows }
  | v => .error (.wrongType v typeName)

end Summary

/-- What an evaluation found. -/
structure Result where
  datasetDir : String
  summary : Summary
  violationCount : Nat
  violations : List Violation
  deriving DecidableEq, Repr

namespace Result

/-- Nothing is wrong with the dataset. -/
def isClean (r : Result) : Bool := r.violationCount = 0

/-- One of the kept violations has the code. -/
def hasCode (r : Result) (code : String) : Bool := r.violations.any (·.code = code)

/-- The result as a value. -/
def toValue (r : Result) : Value :=
  .object [("dataset_dir", .string r.datasetDir), ("summary", r.summary.toValue),
    ("violation_count", .ofNat r.violationCount),
    ("violations", .array (r.violations.map Violation.toValue))]

/-- The name of the type in faults. -/
def typeName : String := "struct EvaluationResult"

/-- How each field reads. -/
def checks : Value.Checks :=
  [("dataset_dir", Value.check Value.asPath), ("summary", Value.check Summary.ofValue),
    ("violation_count", Value.check Value.asNat64),
    ("violations", Value.check (Value.asList Violation.ofValue))]

/-- Reads a result from an object or from an array in the order of the fields. -/
def ofValue : Value → Value.Decoded Result
  | .object fields => do
    Value.firstFault checks fields
    let datasetDir ← Value.required Value.asPath fields "dataset_dir"
    let summary ← Value.required Summary.ofValue fields "summary"
    let violationCount ← Value.required Value.asNat64 fields "violation_count"
    let violations ← Value.required (Value.asList Violation.ofValue) fields "violations"
    return { datasetDir, summary, violationCount, violations }
  | .array items => do
    let whole := typeName ++ " with 4 elements"
    let datasetDir ← Value.item Value.asPath items 0 whole
    let summary ← Value.item Summary.ofValue items 1 whole
    let violationCount ← Value.item Value.asNat64 items 2 whole
    let violations ← Value.item (Value.asList Violation.ofValue) items 3 whole
    Value.endOfItems items 4
    return { datasetDir, summary, violationCount, violations }
  | v => .error (.wrongType v typeName)

end Result

end LinkedDocs.Evaluation
