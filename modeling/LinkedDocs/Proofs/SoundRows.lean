import LinkedDocs.Evaluation.Rules
import Mathlib.Data.List.Basic

/-!
# Sound rows

A row is sound if its columns pass the rules that look at the row alone. The
rules report nothing of a row exactly if it is sound, has the expected id, and
no row before it has that id.

* `mainViolations_eq_nil_iff`, `relatedViolations_eq_nil_iff`: the rules for rows.
* `sizeViolations_eq_nil_iff`: the rule for the size of a batch.
-/

namespace LinkedDocs.Evaluation

open Dataset

/-- What holds of each member at its place holds of the first, and of the others one place on. -/
theorem forall_getElem_cons {α : Type} {P : Nat → α → Prop} {first : Nat} {a : α} {l : List α} :
    (∀ i (h : i < (a :: l).length), P (first + i) (a :: l)[i]) ↔
      P first a ∧ ∀ i (h : i < l.length), P (first + 1 + i) l[i] := by
  constructor
  · intro h
    refine ⟨h 0 (Nat.zero_lt_succ _), fun i hi => ?_⟩
    rw [Nat.add_right_comm]
    exact h (i + 1) (Nat.succ_lt_succ hi)
  · rintro ⟨ha, hl⟩ i hi
    cases i with
    | zero => exact ha
    | succ i =>
      have hnext := hl i (Nat.lt_of_succ_lt_succ hi)
      rw [Nat.add_right_comm] at hnext
      exact hnext

/-- What holds of each member at its place holds of one of them and of those around it. -/
theorem forall_getElem_append_cons {α : Type} {P : Nat → α → Prop} {front back : List α} {a : α}
    (h : ∀ i (hi : i < (front ++ a :: back).length), P i (front ++ a :: back)[i]) :
    (∀ i (hi : i < front.length), P i front[i]) ∧ P front.length a ∧
      ∀ i (hi : i < back.length), P (front.length + 1 + i) back[i] := by
  refine ⟨fun i hi => ?_, forall_getElem_cons.1 fun i hi => ?_⟩
  · have hfront := h i (by rw [List.length_append]; omega)
    rwa [List.getElem_append_left hi] at hfront
  · have hback := h (front.length + i) (by rw [List.length_append]; omega)
    simpa [List.getElem_append_right] using hback

theorem toOption_eq_some_iff {ε α : Type} {x : Except ε α} {a : α} :
    x.toOption = some a ↔ x = .ok a := by
  cases x <;> simp [Except.toOption]

/-- The columns of a main row besides its id pass their rules. -/
structure SoundMain (row : MainRow) : Prop where
  date : ∃ t, Calendar.DateTime.read Calendar.rowLayout row.date = .ok t
  deleted : ∃ flag, deletedFlag? row.deleted = some flag
  nested : nestedFault? row.nested = none
  nonSearchable_length : row.nonSearchable.length ≤ MainRecord.nonSearchableLimit
  text_length : row.text.length ≤ MainRecord.textLimit
  ignoreMe_length : row.ignoreMe.length ≤ MainRecord.ignoreMeLimit
  vocabulary : inVocabulary row.ignoreMe Vocabulary.mainMarkers.toList = true
  textArray : ∃ items, literalItems? row.textArray.toList = some items ∧
    items.length = MainRecord.textArrayItems

/-- The columns of a related row besides its ids pass their rules. -/
structure SoundRelated (row : RelatedRow) : Prop where
  value_length : row.value.length ≤ RelatedRecord.valueLimit
  ignoreMe_length : row.ignoreMe.length ≤ RelatedRecord.ignoreMeLimit
  vocabulary : inVocabulary row.ignoreMe Vocabulary.relatedMarkers.toList = true

instance (row : MainRow) : Decidable (SoundMain row) :=
  decidable_of_iff
    ((Calendar.DateTime.read Calendar.rowLayout row.date).toOption.isSome ∧
      (deletedFlag? row.deleted).isSome ∧ nestedFault? row.nested = none ∧
      row.nonSearchable.length ≤ MainRecord.nonSearchableLimit ∧
      row.text.length ≤ MainRecord.textLimit ∧ row.ignoreMe.length ≤ MainRecord.ignoreMeLimit ∧
      inVocabulary row.ignoreMe Vocabulary.mainMarkers.toList = true ∧
      (literalItems? row.textArray.toList).map List.length = some MainRecord.textArrayItems) <| by
    simp only [Option.isSome_iff_exists, toOption_eq_some_iff, Option.map_eq_some_iff]
    exact ⟨fun ⟨a, b, c, d, e, f, g, h⟩ => ⟨a, b, c, d, e, f, g, h⟩,
      fun ⟨a, b, c, d, e, f, g, h⟩ => ⟨a, b, c, d, e, f, g, h⟩⟩

instance (row : RelatedRow) : Decidable (SoundRelated row) :=
  decidable_of_iff
    (row.value.length ≤ RelatedRecord.valueLimit ∧
      row.ignoreMe.length ≤ RelatedRecord.ignoreMeLimit ∧
      inVocabulary row.ignoreMe Vocabulary.relatedMarkers.toList = true)
    ⟨fun ⟨a, b, c⟩ => ⟨a, b, c⟩, fun ⟨a, b, c⟩ => ⟨a, b, c⟩⟩

/-! ## When a rule reports nothing -/

theorem messageIf_eq_nil {condition : Bool} {message : String} :
    messageIf condition message = [] ↔ condition = false := by
  cases condition <;> simp [messageIf]

theorem lengthFaults_eq_nil {columns : List (String × String × Nat)} :
    lengthFaults columns = [] ↔ ∀ column ∈ columns, column.2.1.length ≤ column.2.2 := by
  simp only [lengthFaults, List.filterMap_eq_nil_iff]
  apply forall₂_congr
  rintro ⟨name, text, limit⟩ -
  simp

/-- A main row has no violations exactly if its id is right and new, and the row is sound. -/
theorem mainViolations_eq_nil_iff {row : MainRow} {expected : Nat} {repeated : Bool} :
    mainViolations row expected repeated = [] ↔
      row.id = DocId.main expected ∧ repeated = false ∧ SoundMain row := by
  simp only [mainViolations, mainFaults, List.map_eq_nil_iff, List.append_eq_nil_iff,
    messageIf_eq_nil, lengthFaults_eq_nil, toOption_eq_some_iff, decide_eq_false_iff_not, not_not,
    Option.toList_eq_nil_iff, Bool.not_eq_false', Option.isNone_eq_false_iff,
    Option.isSome_iff_exists, Option.map_eq_some_iff, List.forall_mem_cons, ne_eq]
  constructor
  · rintro ⟨⟨⟨⟨⟨⟨⟨hid, hrepeated⟩, hdate⟩, hdeleted⟩, hnested⟩, hn, ht, hi, -⟩, hv⟩, ha⟩
    exact ⟨hid, hrepeated, hdate, hdeleted, hnested, hn, ht, hi, hv, ha⟩
  · rintro ⟨hid, hrepeated, hdate, hdeleted, hnested, hn, ht, hi, hv, ha⟩
    exact ⟨⟨⟨⟨⟨⟨⟨hid, hrepeated⟩, hdate⟩, hdeleted⟩, hnested⟩, hn, ht, hi, by simp⟩, hv⟩, ha⟩

/-- The violation of a main row with another id than its place asks for. -/
def misplacedViolation (row : MainRow) (expected : Nat) : Violation where
  code := MainRule.id.code
  path := mainFileName ++ ":" ++ row.id
  message := idMessage (DocId.main expected) row.id
  rowIndex := some row.rowIndex

/-- Of a sound row with a new id there is at most its number to report. -/
theorem mainViolations_of_sound {row : MainRow} (h : SoundMain row) (expected : Nat) :
    mainViolations row expected false =
      if row.id = DocId.main expected then [] else [misplacedViolation row expected] := by
  split
  · next hid => exact mainViolations_eq_nil_iff.2 ⟨hid, rfl, h⟩
  · next hid =>
    rcases h with ⟨⟨t, hdate⟩, ⟨flag, hdeleted⟩, hnested, hn, ht, hi, hv, ⟨items, hitems, hlen⟩⟩
    simp [mainViolations, mainFaults, messageIf, lengthFaults, misplacedViolation, hid, hdate,
      hdeleted, hnested, hv, hitems, hlen, Except.toOption, Nat.not_lt.2 hn, Nat.not_lt.2 ht,
      Nat.not_lt.2 hi]

/-- A related row likewise, by its place in the batch. -/
theorem relatedViolations_eq_nil_iff {kind : RelatedKind} {parent sequence : Nat}
    {row : RelatedRow} {repeated : Bool} :
    relatedViolations kind parent sequence row repeated = [] ↔
      row.id = DocId.related kind parent (word32 sequence) ∧ repeated = false ∧
        SoundRelated row := by
  simp only [relatedViolations, relatedFaults, List.map_eq_nil_iff, List.append_eq_nil_iff,
    messageIf_eq_nil, lengthFaults_eq_nil, decide_eq_false_iff_not, not_not,
    Bool.not_eq_false', List.forall_mem_cons, ne_eq]
  constructor
  · rintro ⟨⟨⟨hid, hrepeated⟩, hvalue, hignore, -⟩, hv⟩
    exact ⟨hid, hrepeated, hvalue, hignore, hv⟩
  · rintro ⟨hid, hrepeated, hvalue, hignore, hv⟩
    exact ⟨⟨⟨hid, hrepeated⟩, hvalue, hignore, by simp⟩, hv⟩

/-- A size passes exactly if the counter shows one within the bounds. -/
theorem sizeViolations_eq_nil_iff {kind : RelatedKind} {main : MainRow} {count : Nat} :
    sizeViolations kind main count = [] ↔ kind.bounds.holds (word32 count) = true := by
  rw [sizeViolations]
  split <;> simp_all

/-! ## Batches -/

/-- The rows of a batch pass their rules, as far as 32-bit counters show their number and places. -/
structure SoundBatch (kind : RelatedKind) (parent : Nat) (rows : List RelatedRow) : Prop where
  size : kind.bounds.holds (word32 rows.length) = true
  id_eq : ∀ j (h : j < rows.length), rows[j].id = DocId.related kind parent (word32 j)
  sound : ∀ row ∈ rows, SoundRelated row

end LinkedDocs.Evaluation
