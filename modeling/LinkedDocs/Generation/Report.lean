import LinkedDocs.Dataset.Files
import LinkedDocs.Generation.Options

/-!
# The report of a generation run

What a run wrote and where. A report without a seed leaves the field out.
-/

namespace LinkedDocs.Generation

/-- The rows of each kind that were written. -/
structure RowCounts where
  main : Nat := 0
  child : Nat := 0
  inline : Nat := 0
  deleted : Nat := 0
  deriving DecidableEq, Repr

namespace RowCounts

/-- One main document more. -/
def addMain (c : RowCounts) (deleted : Bool) : RowCounts :=
  { c with main := c.main + 1, deleted := c.deleted + if deleted then 1 else 0 }

/-- The rows of a kind. -/
def related (c : RowCounts) : RelatedKind → Nat
  | .child => c.child
  | .inline => c.inline

/-- One related document more. -/
def addRelated (c : RowCounts) : RelatedKind → RowCounts
  | .child => { c with child := c.child + 1 }
  | .inline => { c with inline := c.inline + 1 }

end RowCounts

/-- The summary of a run. -/
structure Report where
  count : Nat
  rows : RowCounts
  bytesWritten : Nat
  /-- The time the run took, filled in by whoever keeps a clock. -/
  durationMs : Nat
  seed : Option Nat
  paths : Dataset.Paths
  deriving DecidableEq, Repr

namespace Report

/-- The report after one related document more; none if 64 bits do not hold the number. -/
def recordRelated? (r : Report) (kind : RelatedKind) : Option Report :=
  if r.rows.related kind + 1 < Text.word64 then some { r with rows := r.rows.addRelated kind }
  else none

/-- The name of the type in faults. -/
def typeName : String := "struct GenerationReport"

/-- The report as a value; an absent seed is left out. -/
def toValue (r : Report) : Value :=
  .object ([("count", .ofNat r.count), ("main_rows", .ofNat r.rows.main),
    ("child_rows", .ofNat r.rows.child), ("inline_rows", .ofNat r.rows.inline),
    ("deleted_rows", .ofNat r.rows.deleted), ("bytes_written", .ofNat r.bytesWritten),
    ("duration_ms", .ofNat r.durationMs)]
    ++ (match r.seed with
      | some seed => [("seed", .ofNat seed)]
      | none => [])
    ++ [("main_path", .string r.paths.main), ("child_path", .string r.paths.child),
      ("inline_path", .string r.paths.inline)])

/-- How each field reads. -/
def checks : Value.Checks :=
  ["count", "main_rows", "child_rows", "inline_rows", "deleted_rows", "bytes_written",
      "duration_ms"].map (fun name => (name, Value.check Value.asNat64))
    ++ [("seed", Value.check (Value.orNull Value.asNat64))]
    ++ ["main_path", "child_path", "inline_path"].map fun name => (name, Value.check Value.asPath)

/-- Reads a report from an object or from an array in the order of the fields. -/
def ofValue : Value → Value.Decoded Report
  | .object fields => do
    Value.firstFault checks fields
    let number := Value.required Value.asNat64 fields
    let path := Value.required Value.asPath fields
    let count ← number "count"
    let main ← number "main_rows"
    let child ← number "child_rows"
    let inline ← number "inline_rows"
    let deleted ← number "deleted_rows"
    let bytesWritten ← number "bytes_written"
    let durationMs ← number "duration_ms"
    let seed ← Value.optional (Value.orNull Value.asNat64) fields "seed" none
    let mainPath ← path "main_path"
    let childPath ← path "child_path"
    let inlinePath ← path "inline_path"
    return {
      count, rows := { main, child, inline, deleted }, bytesWritten, durationMs, seed
      paths := ⟨mainPath, childPath, inlinePath⟩ }
  | .array items => do
    let whole := typeName ++ " with 11 elements"
    let number (place : Nat) := Value.item Value.asNat64 items place whole
    let path (place : Nat) := Value.item Value.asPath items place whole
    let count ← number 0
    let main ← number 1
    let child ← number 2
    let inline ← number 3
    let deleted ← number 4
    let bytesWritten ← number 5
    let durationMs ← number 6
    let seed ← Value.itemOr (Value.orNull Value.asNat64) items 7 none
    let mainPath ← path 8
    let childPath ← path 9
    let inlinePath ← path 10
    Value.endOfItems items 11
    return {
      count, rows := { main, child, inline, deleted }, bytesWritten, durationMs, seed
      paths := ⟨mainPath, childPath, inlinePath⟩ }
  | v => .error (.wrongType v typeName)

end Report

end LinkedDocs.Generation
