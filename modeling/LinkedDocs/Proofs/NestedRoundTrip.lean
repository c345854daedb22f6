import LinkedDocs.Evaluation.Rules
import LinkedDocs.Proofs.JsonRoundTrip
import LinkedDocs.Record.Encode

/-!
# The payload is read as it was written

The payload of a main document is read back from its JSON, whatever characters its
texts hold; its fields come back in ascending order.

* `read_toJson`: the whole payload.
* `nestedFault?_toJson`: nothing but its value can be wrong with a written payload.
-/

namespace LinkedDocs.Nested

/-- A payload is read back, with its fields in ascending order. -/
theorem read_toJson (n : Nested) :
    Json.read n.toJson = .ok (.object
      [("key", .string n.key), ("name", .string n.name), ("value", .string n.value)]) := by
  have hexact : n.toValue.Exact Json.depthLimit :=
    ⟨by decide, trivial, trivial, trivial, trivial⟩
  rw [toJson, Json.read_compact hexact]
  rfl

/-- Only its value can be wrong with a payload that was written. -/
theorem nestedFault?_toJson (n : Nested) :
    Evaluation.nestedFault? n.toJson =
      (Evaluation.valueFault? n.value).map fun message => (.nestedValue, message) := by
  rw [Evaluation.nestedFault?, Evaluation.nestedFields, read_toJson]
  rfl

end LinkedDocs.Nested
