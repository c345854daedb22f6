import LinkedDocs.Value.Decode

/-!
# Options of an evaluation

Options left out have their defaults; unknown options are passed over.
-/

namespace LinkedDocs.Evaluation

/-- The options of an evaluation. -/
structure Options where
  /-- Each file begins with a row of column names. -/
  headers : Bool := false
  /-- The greatest number of violations that are kept. -/
  maxExamples : Nat := 20
  /-- Any violation is an error. -/
  strict : Bool := true
  deriving DecidableEq, Repr

namespace Options

/-- The name of the type in faults. -/
def typeName : String := "struct EvaluateOptions"

/-- How each option reads. -/
def checks : Value.Checks :=
  [("headers", Value.check Value.asBool), ("max_examples", Value.check Value.asSize),
    ("strict", Value.check Value.asBool)]

/-- Reads options from an object or from an array in the order of the fields. -/
def ofValue : Value → Value.Decoded Options
  | .object fields => do
    Value.firstFault checks fields
    let absent : Options := {}
    return {
      headers := ← Value.optional Value.asBool fields "headers" absent.headers
      maxExamples := ← Value.optional Value.asSize fields "max_examples" absent.maxExamples
      strict := ← Value.optional Value.asBool fields "strict" absent.strict }
  | .array items => do
    let absent : Options := {}
    let options : Options := {
      headers := ← Value.itemOr Value.asBool items 0 absent.headers
      maxExamples := ← Value.itemOr Value.asSize items 1 absent.maxExamples
      strict := ← Value.itemOr Value.asBool items 2 absent.strict }
    Value.endOfItems items 3
    return options
  | v => .error (.wrongType v typeName)

/-- The options as a value. -/
def toValue (o : Options) : Value :=
  .object [("headers", .bool o.headers), ("max_examples", .ofNat o.maxExamples),
    ("strict", .bool o.strict)]

end Options

end LinkedDocs.Evaluation
