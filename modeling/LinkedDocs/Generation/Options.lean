import LinkedDocs.Calendar.Printer
import LinkedDocs.Value.Decode

/-!
# Options of a generation run

Where the dataset is written, whether with header rows, and what fixes its
contents. Options left out have their defaults; unknown options are passed over.
-/

namespace LinkedDocs.Generation

open Calendar

/-- The options of a run. -/
structure Options where
  /-- The directory of the dataset. -/
  outDir : String := "data"
  /-- Each file begins with a row of column names. -/
  headers : Bool := false
  /-- The seed of the random source; fresh for each run if absent. -/
  seed : Option Nat := none
  /-- The latest date of a document; the local time if absent. -/
  referenceTime : Option DateTime := none
  deriving DecidableEq, Repr

namespace Options

/-- The name of the type in faults. -/
def typeName : String := "struct GenerateOptions"

/-- How each option reads. -/
def checks : Value.Checks :=
  [("out_dir", Value.check Value.asPath), ("headers", Value.check Value.asBool),
    ("seed", Value.check (Value.orNull Value.asNat64)),
    ("reference_time", Value.check (Value.orNull Value.asDateTime))]

/-- Reads options from an object or from an array in the order of the fields. -/
def ofValue : Value → Value.Decoded Options
  | .object fields => do
    Value.firstFault checks fields
    let absent : Options := {}
    return {
      outDir := ← Value.optional Value.asPath fields "out_dir" absent.outDir
      headers := ← Value.optional Value.asBool fields "headers" absent.headers
      seed := ← Value.optional (Value.orNull Value.asNat64) fields "seed" absent.seed
      referenceTime := ← Value.optional (Value.orNull Value.asDateTime) fields "reference_time"
        absent.referenceTime }
  | .array items => do
    let absent : Options := {}
    let options : Options := {
      outDir := ← Value.itemOr Value.asPath items 0 absent.outDir
      headers := ← Value.itemOr Value.asBool items 1 absent.headers
      seed := ← Value.itemOr (Value.orNull Value.asNat64) items 2 absent.seed
      referenceTime := ← Value.itemOr (Value.orNull Value.asDateTime) items 3
        absent.referenceTime }
    Value.endOfItems items 4
    return options
  | v => .error (.wrongType v typeName)

/-- A number, or null. -/
def natOrNull : Option Nat → Value
  | some n => .ofNat n
  | none => .null

/-- A date-time in the layout of option values, or null. -/
def dateTimeOrNull : Option DateTime → Value
  | some t => .string t.toIso
  | none => .null

/-- The options as a value. -/
def toValue (o : Options) : Value :=
  .object [("out_dir", .string o.outDir), ("headers", .bool o.headers),
    ("seed", natOrNull o.seed), ("reference_time", dateTimeOrNull o.referenceTime)]

end Options

end LinkedDocs.Generation
