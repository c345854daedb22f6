import LinkedDocs.Proofs.KeyColumns
import Mathlib.Data.Finset.Card

/-!
# Repeated ids

All rows of a dataset share one table of ids, whatever file they stand in. A row is
reported as a repeat exactly if a row checked before it has its id, so there are as
many reports as there are checked rows beyond one for each id.

* `repeatsAfter`: the rows whose id occurs before them.
* `repeatViolations_eq`: the reports of repeats are those of these rows, in order.
* `length_repeatsAfter`: how many there are.
* `repeated_ids_counted_exactly`: the reports of an evaluation.
-/

namespace LinkedDocs.Evaluation

open Dataset

/-! ## Reports of repeats -/

/-- The rule is that an id may not repeat. -/
def MainRule.isRepeat : MainRule → Bool
  | duplicateId => true
  | _ => false

/-- The rule is that an id may not repeat. -/
def RelatedRule.isRepeat : RelatedRule → Bool
  | duplicateId => true
  | _ => false

/-- That an id may not repeat is a rule about ids. -/
theorem concernsKeys_of_isRepeat (rule : MainRule) :
    rule.isRepeat = true → rule.concernsKeys = true := by
  cases rule <;> decide

/-- The codes of the rules that an id may not repeat. -/
def repeatCodes : List String :=
  ["main.duplicate_id", "child.duplicate_id", "inline.duplicate_id"]

/-- The violation is that an id repeats. -/
def Violation.isRepeat (v : Violation) : Bool := repeatCodes.contains v.code

theorem contains_repeatCodes_main (rule : MainRule) :
    repeatCodes.contains rule.code = rule.isRepeat := by
  cases rule <;> decide

theorem contains_repeatCodes_related (kind : RelatedKind) (rule : RelatedRule) :
    repeatCodes.contains (rule.code kind) = rule.isRepeat := by
  cases kind <;> cases rule <;> decide

/-- The violations that an id repeats, in order. -/
def repeatViolations (found : List Violation) : List Violation := found.filter (·.isRepeat)

namespace Row

/-- What is reported of the row if its id repeats. -/
def repeatViolation : Row → Violation
  | main row => {
      code := MainRule.duplicateId.code
      path := mainFileName ++ ":" ++ row.id
      message := repeatMessage row.id
      rowIndex := some row.rowIndex }
  | related kind row => {
      code := RelatedRule.duplicateId.code kind
      path := relatedPath kind row.id
      message := repeatMessage row.id
      rowIndex := some row.rowIndex }

/-- A repeat is reported at the place of the row. -/
theorem repeatViolation_isAt (row : Row) : row.repeatViolation.IsAt row.place := by
  cases row with
  | main row => exact ⟨takeWhile_path .main row.id, rfl⟩
  | related kind row => exact ⟨takeWhile_path (.related kind) row.id, rfl⟩

end Row

/-! ## Rows whose id occurs before them -/

/-- The rows whose id is one of these, or that of a row before them. -/
def repeatsAfter (ids : List String) : List Row → List Row
  | [] => []
  | row :: rest =>
    (if ids.contains row.id then [row] else []) ++ repeatsAfter (ids ++ [row.id]) rest

/-- Behind other rows the repeats are those after the ids of these rows. -/
theorem repeatsAfter_append (ids : List String) (rows more : List Row) :
    repeatsAfter ids (rows ++ more) =
      repeatsAfter ids rows ++ repeatsAfter (ids ++ rows.map Row.id) more := by
  induction rows generalizing ids with
  | nil => rw [List.map_nil, List.append_nil]; rfl
  | cons row rows ih =>
    rw [List.cons_append, repeatsAfter, repeatsAfter, ih, List.append_assoc, List.append_assoc,
      List.map_cons, List.singleton_append]

/-- A repeat stands behind a row with its id, if its id is none of those given. -/
theorem exists_before_of_mem_repeatsAfter {ids : List String} {rows : List Row} {row : Row}
    (h : row ∈ repeatsAfter ids rows) :
    ∃ front back, rows = front ++ row :: back ∧ row.id ∈ ids ++ front.map Row.id := by
  induction rows generalizing ids with
  | nil => cases h
  | cons first rest ih =>
    rw [repeatsAfter, List.mem_append] at h
    rcases h with hfirst | hrest
    · by_cases hseen : ids.contains first.id = true
      · rw [if_pos hseen, List.mem_singleton] at hfirst
        subst hfirst
        exact ⟨[], rest, rfl, List.mem_append_left _ (List.contains_iff_mem.1 hseen)⟩
      · rw [if_neg hseen] at hfirst
        cases hfirst
    · obtain ⟨front, back, rfl, hid⟩ := ih hrest
      refine ⟨first :: front, back, rfl, ?_⟩
      rwa [List.append_assoc, List.singleton_append] at hid

/-- The repeats, and one row for each id, are all rows. -/
theorem length_repeatsAfter (rows : List Row) :
    (repeatsAfter [] rows).length + (rows.map Row.id).toFinset.card = rows.length := by
  -- The last row is a repeat, or the first one with its id.
  induction rows using List.reverseRecOn with
  | nil => rfl
  | append_singleton rows row ih =>
    have hlast : repeatsAfter (rows.map Row.id) [row] =
        if row.id ∈ rows.map Row.id then [row] else [] := by
      simp only [repeatsAfter, List.append_nil, List.contains_iff_mem]
    have hids : ((rows ++ [row]).map Row.id).toFinset =
        insert row.id (rows.map Row.id).toFinset := by
      rw [List.map_append, List.toFinset_append, List.map_singleton, List.toFinset_cons,
        List.toFinset_nil, Finset.union_insert, Finset.union_empty]
    rw [repeatsAfter_append, List.nil_append, hlast, hids, List.length_append, List.length_append,
      List.length_singleton]
    by_cases hseen : row.id ∈ rows.map Row.id
    · rw [if_pos hseen, Finset.insert_eq_of_mem (List.mem_toFinset.2 hseen), List.length_singleton]
      omega
    · rw [if_neg hseen, Finset.card_insert_of_notMem (mt List.mem_toFinset.1 hseen),
        List.length_nil]
      omega

/-- There are no repeats exactly if the ids are pairwise distinct. -/
theorem repeatsAfter_eq_nil_iff {rows : List Row} :
    repeatsAfter [] rows = [] ↔ (rows.map Row.id).Nodup := by
  have hcount := length_repeatsAfter rows
  rw [← List.length_eq_zero_iff, ← Multiset.coe_nodup, ← Multiset.toFinset_card_eq_card_iff_nodup,
    Multiset.coe_card, List.length_map]
  show _ ↔ (rows.map Row.id).toFinset.card = rows.length
  omega

/-! ## The reports, row by row -/

/-- Of a main row at most the repeat of its id is reported as one. -/
theorem repeatViolations_main (row : MainRow) (expected : Nat) (repeated : Bool) :
    repeatViolations (mainViolations row expected repeated) =
      (if repeated then [Row.main row] else []).map Row.repeatViolation := by
  have hnested : (nestedFault? row.nested).toList.filter (·.1.isRepeat) = [] := by
    rw [List.filter_eq_nil_iff]
    rintro ⟨rule, message⟩ hfault hrepeat
    have hkeys := concernsKeys_nestedFault (Option.mem_toList.1 hfault)
    rw [concernsKeys_of_isRepeat rule hrepeat] at hkeys
    cases hkeys
  have hfaults : (mainFaults row expected repeated).filter (·.1.isRepeat) =
      (messageIf repeated (repeatMessage row.id)).map fun m => (.duplicateId, m) := by
    unfold mainFaults
    simp only [List.filter_append, filter_rule MainRule.isRepeat, hnested]
    simp only [MainRule.isRepeat, Bool.false_eq_true, if_true, if_false, List.append_nil,
      List.nil_append]
  refine (filter_mainViolations contains_repeatCodes_main row expected repeated).trans ?_
  rw [hfaults]
  cases repeated <;> rfl

/-- Of a related row at most the repeat of its id is reported as one. -/
theorem repeatViolations_related (kind : RelatedKind) (parent sequence : Nat) (row : RelatedRow)
    (repeated : Bool) :
    repeatViolations (relatedViolations kind parent sequence row repeated) =
      (if repeated then [Row.related kind row] else []).map Row.repeatViolation := by
  have hfaults : (relatedFaults kind parent sequence row repeated).filter (·.1.isRepeat) =
      (messageIf repeated (repeatMessage row.id)).map fun m => (.duplicateId, m) := by
    unfold relatedFaults
    simp only [List.filter_append, filter_rule RelatedRule.isRepeat]
    simp only [RelatedRule.isRepeat, Bool.false_eq_true, if_true, if_false, List.append_nil,
      List.nil_append]
  refine (filter_relatedViolations (contains_repeatCodes_related kind) parent sequence row
    repeated).trans ?_
  rw [hfaults]
  cases repeated <;> rfl

/-- A check reports a repeat exactly if its row is one; sizes and orphans are none. -/
theorem repeatViolations_check (ids : List String) (check : Check) :
    repeatViolations (check.violations (check.repeats ids)) =
      (repeatsAfter ids (rowsOf [check])).map Row.repeatViolation := by
  cases check with
  | main row expected =>
    refine (repeatViolations_main row expected _).trans ?_
    exact congrArg _ (List.append_nil _).symm
  | size kind owner count =>
    refine (filter_sizeViolations repeatCodes.contains kind owner count).trans ?_
    rw [contains_repeatCodes_related kind .batchSize]
    rfl
  | related kind parent sequence row =>
    refine (repeatViolations_related kind parent sequence row _).trans ?_
    exact congrArg _ (List.append_nil _).symm
  | orphan row =>
    have hcode : (orphanViolation row).isRepeat = false :=
      contains_repeatCodes_related row.kind .orphan
    unfold repeatViolations Check.violations
    rw [List.filter_singleton, hcode]
    rfl

/-- The reports of repeats are those of the rows whose id occurs before them. -/
theorem repeatViolations_eq (groups : List Group) (left : List RelatedRow) :
    repeatViolations (violationsOf groups left) =
      (repeatsAfter [] (groups.flatMap groupRows)).map Row.repeatViolation := by
  refine @filter_violationsOf _ (fun ids rows => (repeatsAfter ids rows).map Row.repeatViolation)
    (fun _ => rfl) (fun ids rows more => ?_) repeatViolations_check groups left
  rw [repeatsAfter_append, List.map_append]

end LinkedDocs.Evaluation

namespace LinkedDocs.Dataset.Rows

open Evaluation

variable {d : Rows} {dir : String} {headers : Bool} {t : FileTree}

/-- The groups of readable rows are those that the reader of the directory yields. -/
theorem ReadFrom.readsAll (h : d.ReadFrom dir headers t) :
    ∃ r tree, Reader.openDir dir headers t = (.ok r, tree) ∧ r.ReadsAll d.groups d.left := by
  obtain ⟨r, tree, hopen, hr⟩ := h
  exact ⟨r, tree, hopen, readsAll_of_holds hr⟩

/-- The checked rows are the rows that the summary counts, but for the orphans. -/
theorem length_checked (d : Rows) :
    d.checked.length = d.summary.mainRows + d.summary.childRows + d.summary.inlineRows := by
  show (d.groups.flatMap groupRows).length = d.groups.length +
    (d.groups.flatMap Group.children).length + (d.groups.flatMap Group.inlines).length
  induction d.groups with
  | nil => rfl
  | cons group groups ih =>
    have hrows : (groupRows group).length =
        1 + group.children.length + group.inlines.length := by
      rw [groupRows, List.length_cons, List.length_append, List.length_map, List.length_map]
      omega
    simp only [List.flatMap_cons, List.length_append, List.length_cons, hrows, ih]
    omega

end LinkedDocs.Dataset.Rows

namespace LinkedDocs.Evaluation

open Dataset

/--
Repeated ids are counted exactly, across the three files. Take any rows that can be
read, and check them as they are grouped. Every evaluation of them reports the same
violations; those that an id repeats, and one for each id that occurs, are as many as
the checked rows. Each of them is located at a row that stands behind
another row with its id, so there are none exactly if the ids are pairwise distinct.
-/
theorem repeated_ids_counted_exactly {d : Rows} {dir : String} {options : Options}
    {session : Session} (hread : d.ReadFrom dir options.headers session.tree) :
    (∃ r tree, Reader.openDir dir options.headers session.tree = (.ok r, tree) ∧
      r.ReadsAll d.groups d.left) ∧
    (options.strict = false → ∃ result after, run options dir session = (.ok result, after)) ∧
    (∀ result after, run options dir session = (.ok result, after) →
      result.violationCount = d.violations.length ∧
      result.violations = d.violations.take options.maxExamples ∧
      d.checked.length =
        result.summary.mainRows + result.summary.childRows + result.summary.inlineRows) ∧
    (repeatViolations d.violations).length + (d.checked.map Row.id).toFinset.card =
      d.checked.length ∧
    (∀ v ∈ repeatViolations d.violations, ∃ front row back,
      d.checked = front ++ row :: back ∧ row.id ∈ front.map Row.id ∧
        v = row.repeatViolation ∧ v.IsAt row.place) ∧
    (repeatViolations d.violations = [] ↔ (d.checked.map Row.id).Nodup) := by
  have hrepeats : repeatViolations d.violations =
      (repeatsAfter [] d.checked).map Row.repeatViolation :=
    repeatViolations_eq d.groups d.left
  refine ⟨hread.readsAll, fun hlenient => (Rows.exists_result_iff hlenient).2 ⟨d, hread⟩,
    ?_, ?_, ?_, ?_⟩
  · intro result after hrun
    obtain ⟨rfl, -⟩ := (Rows.run_ok_iff hread).1 ⟨after, hrun⟩
    exact ⟨rfl, rfl, d.length_checked⟩
  · rw [hrepeats, List.length_map]
    exact length_repeatsAfter d.checked
  · intro v hv
    rw [hrepeats] at hv
    obtain ⟨row, hrow, rfl⟩ := List.mem_map.1 hv
    obtain ⟨front, back, hsplit, hid⟩ := exists_before_of_mem_repeatsAfter hrow
    exact ⟨front, row, back, hsplit, hid, rfl, row.repeatViolation_isAt⟩
  · rw [hrepeats, List.map_eq_nil_iff, repeatsAfter_eq_nil_iff]

/-- A child with the id of its main row, and an inline row with the id of a child. -/
def sharedIdFiles : Files where
  main := .file "ID000000,a,b,c,d,e,f,g\nID000001,a,b,c,d,e,f,g\n".toByteArray
  child := .file "ID000000,ID000000,v,w\nC1,ID000001,v,w\n".toByteArray
  inline := .file "C1,ID000001,v,w\n".toByteArray

/-- Two ids are each shared by two rows of different files, and two repeats are reported. -/
theorem two_shared_ids_reported :
    ∃ d : Rows, d.ReadFrom "data" false sharedIdFiles.dataTree ∧
      d.checked.map Row.id = ["ID000000", "ID000000", "ID000001", "C1", "C1"] ∧
      (repeatViolations d.violations).length = 2 ∧
      ∃ result after, run { strict := false } "data" { tree := sharedIdFiles.dataTree } =
        (.ok result, after) ∧ result.violationCount = d.violations.length := by
  have hok : (Reader.openDir "data" false sharedIdFiles.dataTree).1.toOption.any (fun r =>
      decide (AllGood r ∧ (goodRowsOf r).checked.map Row.id =
        ["ID000000", "ID000000", "ID000001", "C1", "C1"])) = true := by
    decide +kernel
  obtain ⟨r, tree, hopen, hr⟩ := exists_ok_of_fst_any hok
  obtain ⟨hgood, hids⟩ := of_decide_eq_true hr
  obtain ⟨-, hruns, hresults, hcount, -⟩ := @repeated_ids_counted_exactly (goodRowsOf r) "data"
    { strict := false } { tree := sharedIdFiles.dataTree } (hgood.readFrom hopen)
  obtain ⟨result, after, hrun⟩ := hruns rfl
  have hdistinct : ((goodRowsOf r).checked.map Row.id).toFinset.card = 3 := by
    rw [hids]
    decide
  have hrows : (goodRowsOf r).checked.length = 5 := by
    rw [← List.length_map Row.id, hids]
    rfl
  refine ⟨_, hgood.readFrom hopen, hids, ?_, result, after, hrun, (hresults _ _ hrun).1⟩
  omega

end LinkedDocs.Evaluation
