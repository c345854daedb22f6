import LinkedDocs.Proofs.Canonical
import LinkedDocs.Proofs.Checks
import LinkedDocs.Proofs.RowGroups

/-!
# What the other columns decide

The key columns of a dataset are the ids of its main rows and the ids and
parents of its related rows. They alone decide how the rows are grouped, and so
they decide every violation about ids, batches and orphans. What the other
columns of a row hold decides only the other violations of that row.

* `Violation.concernsKeys`: the violations about ids, batches and orphans.
* `keyViolations_keyOnly`: blanking the other columns does not change them.
* `otherViolations_eq`: the violations of the other columns, row by row.
* `Violation.IsAt`: where a violation is located.
* `other_columns_do_not_interfere`: two datasets with the same key columns.
-/

namespace LinkedDocs.Evaluation

open Dataset

/-! ## Two sorts of violations -/

/-- The rule is about ids. -/
def MainRule.concernsKeys : MainRule → Bool
  | id | duplicateId => true
  | _ => false

/-- The rule is about ids, the size of a batch, or a missing main row. -/
def RelatedRule.concernsKeys : RelatedRule → Bool
  | fieldLength | ignoreMeVocabulary => false
  | _ => true

/-- The codes of the rules about ids, batches and orphans. -/
def keyCodes : List String :=
  ["main.id", "main.duplicate_id",
    "child.id", "child.duplicate_id", "child.batch_size", "child.orphan",
    "inline.id", "inline.duplicate_id", "inline.batch_size", "inline.orphan"]

/-- The violation is about ids, the size of a batch, or a missing main row. -/
def Violation.concernsKeys (v : Violation) : Bool := keyCodes.contains v.code

/-- The codes about keys are those of the rules about keys. -/
theorem contains_keyCodes_main (rule : MainRule) :
    keyCodes.contains rule.code = rule.concernsKeys := by
  cases rule <;> decide

theorem contains_keyCodes_related (kind : RelatedKind) (rule : RelatedRule) :
    keyCodes.contains (rule.code kind) = rule.concernsKeys := by
  cases kind <;> cases rule <;> decide

/-- The violations about ids, batches and orphans, in order. -/
def keyViolations (found : List Violation) : List Violation := found.filter (·.concernsKeys)

/-- The violations of other columns, in order. -/
def otherViolations (found : List Violation) : List Violation := found.filter (!·.concernsKeys)

theorem keyViolations_append (found more : List Violation) :
    keyViolations (found ++ more) = keyViolations found ++ keyViolations more :=
  List.filter_append found more

/-! ## Faults of one row -/

/-- What is wrong with the payload is not about ids. -/
theorem concernsKeys_nestedFault {text : String} {fault : MainRule × String}
    (h : nestedFault? text = some fault) : fault.1.concernsKeys = false := by
  unfold nestedFault? at h
  split at h
  · cases h
    rfl
  · split at h
    · cases h
      rfl
    · obtain ⟨message, -, rfl⟩ := Option.map_eq_some_iff.1 h
      rfl

/-- The faults about ids depend on the id alone. -/
theorem mainFaults_keys (row : MainRow) (expected : Nat) (repeated : Bool) :
    (mainFaults row expected repeated).filter (·.1.concernsKeys) =
      (messageIf (row.id ≠ DocId.main expected)
          (idMessage (DocId.main expected) row.id)).map (fun m => (.id, m)) ++
        (messageIf repeated (repeatMessage row.id)).map (fun m => (.duplicateId, m)) := by
  have hnested : (nestedFault? row.nested).toList.filter (·.1.concernsKeys) = [] := by
    rw [List.filter_eq_nil_iff]
    intro fault hfault
    rw [concernsKeys_nestedFault (Option.mem_toList.1 hfault)]
    exact Bool.false_ne_true
  unfold mainFaults
  simp only [List.filter_append, filter_rule MainRule.concernsKeys, hnested]
  simp only [MainRule.concernsKeys, Bool.false_eq_true, if_true, if_false, List.append_nil]

/-- The other faults depend neither on the place of the row nor on the rows before it. -/
theorem mainFaults_others (row : MainRow) (expected : Nat) (repeated : Bool) :
    (mainFaults row expected repeated).filter (!·.1.concernsKeys) =
      (mainFaults row 0 false).filter (!·.1.concernsKeys) := by
  unfold mainFaults
  simp only [List.filter_append, filter_rule (fun rule => !MainRule.concernsKeys rule)]
  simp only [MainRule.concernsKeys, Bool.not_true, Bool.false_eq_true, if_false]

/-- The faults about ids depend on the id alone. -/
theorem relatedFaults_keys (kind : RelatedKind) (parent sequence : Nat) (row : RelatedRow)
    (repeated : Bool) :
    (relatedFaults kind parent sequence row repeated).filter (·.1.concernsKeys) =
      (messageIf (row.id ≠ DocId.related kind parent (word32 sequence))
          (idMessage (DocId.related kind parent (word32 sequence)) row.id)).map
            (fun m => (.id, m)) ++
        (messageIf repeated (repeatMessage row.id)).map (fun m => (.duplicateId, m)) := by
  unfold relatedFaults
  simp only [List.filter_append, filter_rule RelatedRule.concernsKeys]
  simp only [RelatedRule.concernsKeys, Bool.false_eq_true, if_true, if_false, List.append_nil]

/-- The other faults depend neither on the place of the row nor on the rows before it. -/
theorem relatedFaults_others (kind : RelatedKind) (parent sequence : Nat) (row : RelatedRow)
    (repeated : Bool) :
    (relatedFaults kind parent sequence row repeated).filter (!·.1.concernsKeys) =
      (relatedFaults kind 0 0 row false).filter (!·.1.concernsKeys) := by
  unfold relatedFaults
  simp only [List.filter_append, filter_rule (fun rule => !RelatedRule.concernsKeys rule)]
  simp only [RelatedRule.concernsKeys, Bool.not_true, Bool.false_eq_true, if_false]

/-! ## Violations about keys -/

/-- Main rows with the same id, number and faults of a sort have the same violations of it. -/
theorem filter_mainViolations_congr {p : String → Bool} {picked : MainRule → Bool}
    (hpicked : ∀ rule, p rule.code = picked rule) {row row' : MainRow} {expected expected' : Nat}
    {repeated repeated' : Bool} (hid : row.id = row'.id) (hindex : row.rowIndex = row'.rowIndex)
    (hfaults : (mainFaults row expected repeated).filter (fun fault => picked fault.1) =
      (mainFaults row' expected' repeated').filter fun fault => picked fault.1) :
    (mainViolations row expected repeated).filter (fun v => p v.code) =
      (mainViolations row' expected' repeated').filter fun v => p v.code := by
  rw [filter_mainViolations hpicked, filter_mainViolations hpicked, hfaults, hid, hindex]

/-- Related rows with the same id, number and faults of a sort have the same violations of it. -/
theorem filter_relatedViolations_congr {p : String → Bool} {picked : RelatedRule → Bool}
    {kind : RelatedKind} (hpicked : ∀ rule, p (rule.code kind) = picked rule)
    {parent parent' sequence sequence' : Nat} {row row' : RelatedRow} {repeated repeated' : Bool}
    (hid : row.id = row'.id) (hindex : row.rowIndex = row'.rowIndex)
    (hfaults : (relatedFaults kind parent sequence row repeated).filter
        (fun fault => picked fault.1) =
      (relatedFaults kind parent' sequence' row' repeated').filter fun fault => picked fault.1) :
    (relatedViolations kind parent sequence row repeated).filter (fun v => p v.code) =
      (relatedViolations kind parent' sequence' row' repeated').filter fun v => p v.code := by
  rw [filter_relatedViolations hpicked, filter_relatedViolations hpicked, hfaults, hid, hindex]

/-- The check of the row with blanked columns. -/
def Check.keyOnly : Check → Check
  | main row expected => main row.keyOnly expected
  | size kind owner count => size kind owner.keyOnly count
  | related kind parent sequence row => related kind parent sequence row.keyOnly
  | orphan row => orphan row.keyOnly

/-- Blanking the other columns does not change what a check finds about keys. -/
theorem keyViolations_check (repeated : Bool) (check : Check) :
    keyViolations (check.keyOnly.violations repeated) =
      keyViolations (check.violations repeated) := by
  cases check with
  | main row expected =>
    have hfaults : (mainFaults row.keyOnly expected repeated).filter (·.1.concernsKeys) =
        (mainFaults row expected repeated).filter (·.1.concernsKeys) := by
      rw [mainFaults_keys, mainFaults_keys]
      rfl
    exact filter_mainViolations_congr contains_keyCodes_main rfl rfl hfaults
  | size kind owner count => rfl
  | related kind parent sequence row =>
    have hfaults : (relatedFaults kind parent sequence row.keyOnly repeated).filter
        (·.1.concernsKeys) =
          (relatedFaults kind parent sequence row repeated).filter (·.1.concernsKeys) := by
      rw [relatedFaults_keys, relatedFaults_keys]
      rfl
    exact filter_relatedViolations_congr (contains_keyCodes_related kind) rfl rfl hfaults
  | orphan row => rfl

/-- The id of a row stays, so it repeats in the same rows. -/
theorem keyViolations_found (ids : List String) (checks : List Check) :
    keyViolations (found ids (checks.map Check.keyOnly)) = keyViolations (found ids checks) := by
  induction checks generalizing ids with
  | nil => rfl
  | cons check checks ih =>
    have hrepeats : check.keyOnly.repeats ids = check.repeats ids := by
      cases check <;> rfl
    have hids : (rowsOf [check.keyOnly]).map Row.id = (rowsOf [check]).map Row.id := by
      cases check <;> rfl
    rw [List.map_cons, found, found, keyViolations_append, keyViolations_append,
      keyViolations_check, hrepeats, hids, ih]

theorem rowChecks_keyOnly (kind : RelatedKind) (parent sequence : Nat) (rows : List RelatedRow) :
    rowChecks kind parent sequence (rows.map RelatedRow.keyOnly) =
      (rowChecks kind parent sequence rows).map Check.keyOnly := by
  induction rows generalizing sequence with
  | nil => rfl
  | cons row rows ih => rw [List.map_cons, rowChecks_cons, rowChecks_cons, ih]; rfl

theorem orphans_keyOnly (rows : List RelatedRow) :
    (rows.map RelatedRow.keyOnly).map Check.orphan = (rows.map Check.orphan).map Check.keyOnly := by
  rw [List.map_map, List.map_map]
  rfl

/-- The checks of a blanked group are the blanked checks: no id and no parent is lost. -/
theorem groupChecks_keyOnly (expected : Nat) (group : Group) :
    groupChecks expected group.keyOnly = (groupChecks expected group).map Check.keyOnly := by
  simp only [groupChecks, batchChecks, List.map_append, List.map_cons, ← rowChecks_keyOnly,
    ← orphans_keyOnly]
  simp only [Group.keyOnly, List.length_map]
  rfl

/-- Blanked rows are checked in the same order and against the same places. -/
theorem checksOf_keyOnly (groups : List Group) (left : List RelatedRow) :
    checksOf (groups.map Group.keyOnly) (left.map RelatedRow.keyOnly) =
      (checksOf groups left).map Check.keyOnly := by
  have hgroups : ∀ expected, groupsChecks expected (groups.map Group.keyOnly) =
      (groupsChecks expected groups).map Check.keyOnly := by
    induction groups with
    | nil => exact fun _ => rfl
    | cons group groups ih =>
      intro expected
      rw [List.map_cons, groupsChecks_cons, groupsChecks_cons, groupChecks_keyOnly, ih,
        List.map_append]
  rw [checksOf, checksOf, hgroups, orphans_keyOnly, List.map_append]

/-- Blanking the other columns does not change the violations about keys. -/
theorem keyViolations_keyOnly (groups : List Group) (left : List RelatedRow) :
    keyViolations (violationsOf (groups.map Group.keyOnly) (left.map RelatedRow.keyOnly)) =
      keyViolations (violationsOf groups left) := by
  rw [violationsOf_eq_found, violationsOf_eq_found, checksOf_keyOnly, keyViolations_found]

/-! ## Violations of other columns -/

/-- One of the files of a dataset. -/
inductive Table where
  | main
  | related (kind : RelatedKind)
  deriving DecidableEq, Repr

/-- The name of the file. -/
def Table.fileName : Table → String
  | main => mainFileName
  | related kind => kind.fileName

namespace Row

/-- The file of the row, and its number in the file. -/
def place : Row → Table × Nat
  | main row => (.main, row.rowIndex)
  | related kind row => (.related kind, row.rowIndex)

/-- The violations of the columns of the row that are no keys. -/
def violations : Row → List Violation
  | main row => otherViolations (mainViolations row 0 false)
  | related kind row => otherViolations (relatedViolations kind 0 0 row false)

/-- The row with blanked columns. -/
def keyOnly : Row → Row
  | main row => main row.keyOnly
  | related kind row => related kind row.keyOnly

theorem place_keyOnly (row : Row) : row.keyOnly.place = row.place := by
  cases row <;> rfl

end Row

/-- The checked rows of a blanked group are the blanked rows. -/
theorem groupRows_keyOnly (group : Group) :
    groupRows group.keyOnly = (groupRows group).map Row.keyOnly := by
  unfold groupRows
  simp only [Group.keyOnly, List.map_cons, List.map_append, List.map_map]
  rfl

/-- What a check finds of other columns is told by its row. -/
theorem otherViolations_check (repeated : Bool) (check : Check) :
    otherViolations (check.violations repeated) = (rowsOf [check]).flatMap Row.violations := by
  cases check with
  | main row expected =>
    have hrow := @filter_mainViolations_congr (!keyCodes.contains ·) (!·.concernsKeys)
      (fun rule => congrArg not (contains_keyCodes_main rule)) row row _ _ _ _ rfl rfl
      (mainFaults_others row expected repeated)
    exact hrow.trans (List.append_nil _).symm
  | size kind owner count =>
    refine (filter_sizeViolations (fun code => !keyCodes.contains code) kind owner count).trans ?_
    rw [contains_keyCodes_related kind .batchSize]
    rfl
  | related kind parent sequence row =>
    have hrow := @filter_relatedViolations_congr (!keyCodes.contains ·) (!·.concernsKeys) kind
      (fun rule => congrArg not (contains_keyCodes_related kind rule)) _ _ _ _ row row _ _ rfl rfl
      (relatedFaults_others kind parent sequence row repeated)
    exact hrow.trans (List.append_nil _).symm
  | orphan row =>
    have hkey : (orphanViolation row).concernsKeys = true :=
      contains_keyCodes_related row.kind .orphan
    unfold otherViolations Check.violations
    rw [List.filter_singleton, hkey]
    rfl

/-- The violations of other columns are those of the checked rows, one row after the other. -/
theorem otherViolations_eq (groups : List Group) (left : List RelatedRow) :
    otherViolations (violationsOf groups left) =
      (groups.flatMap groupRows).flatMap Row.violations :=
  @filter_violationsOf _ (fun _ rows => rows.flatMap Row.violations) (fun _ => rfl)
    (fun _ _ _ => List.flatMap_append) (fun _ check => otherViolations_check _ check) groups left

/-! ## Where violations are located -/

/-- The violation names the file of the place and the number of the row in it. -/
def Violation.IsAt (v : Violation) (place : Table × Nat) : Prop :=
  v.path.toList.takeWhile (· ≠ ':') = place.1.fileName.toList ∧ v.rowIndex = some place.2

instance (v : Violation) (place : Table × Nat) : Decidable (v.IsAt place) :=
  inferInstanceAs (Decidable (_ ∧ _))

/-- No name of a file holds a colon, so a path names its file. -/
theorem colon_notMem_fileName (table : Table) : ':' ∉ table.fileName.toList := by
  cases table with
  | main => decide
  | related kind => cases kind <;> decide

theorem Table.fileName_injective : Function.Injective Table.fileName := by
  intro table table' h
  rcases table with - | ⟨- | -⟩ <;> rcases table' with - | ⟨- | -⟩ <;>
    first | rfl | exact absurd h (by decide)

/-- A violation has one place. -/
theorem Violation.IsAt.unique {v : Violation} {place place' : Table × Nat} (h : v.IsAt place)
    (h' : v.IsAt place') : place = place' := by
  have hfile : place.1.fileName = place'.1.fileName :=
    String.toList_inj.1 (h.1.symm.trans h'.1)
  have hindex : some place.2 = some place'.2 := h.2.symm.trans h'.2
  exact Prod.ext (Table.fileName_injective hfile) (Option.some.inj hindex)

/-- The file in a path is what stands before the first colon. -/
theorem takeWhile_path (table : Table) (id : String) :
    (table.fileName ++ ":" ++ id).toList.takeWhile (· ≠ ':') = table.fileName.toList := by
  have hname : ∀ c ∈ table.fileName.toList, decide (c ≠ ':') = true := by
    intro c hc
    apply decide_eq_true
    rintro rfl
    exact colon_notMem_fileName table hc
  rw [String.toList_append, String.toList_append, List.append_assoc,
    List.takeWhile_append_of_pos hname]
  exact List.append_nil _

/-- The violations of a row are located at the row. -/
theorem Row.isAt_place {row : Row} {v : Violation} (hv : v ∈ row.violations) :
    v.IsAt row.place := by
  cases row with
  | main row =>
    obtain ⟨⟨rule, message⟩, -, rfl⟩ := List.mem_map.1 (List.mem_of_mem_filter hv)
    exact ⟨takeWhile_path .main row.id, rfl⟩
  | related kind row =>
    obtain ⟨⟨rule, message⟩, -, rfl⟩ := List.mem_map.1 (List.mem_of_mem_filter hv)
    exact ⟨takeWhile_path (.related kind) row.id, rfl⟩

/-- The violations located at a place are those of the rows at this place. -/
theorem filter_isAt_violations (rows : List Row) (place : Table × Nat) :
    (rows.flatMap Row.violations).filter (·.IsAt place) =
      (rows.filter (·.place = place)).flatMap Row.violations := by
  induction rows with
  | nil => rfl
  | cons row rows ih =>
    rw [List.flatMap_cons, List.filter_append, ih]
    by_cases hplace : row.place = place
    · have hall : row.violations.filter (·.IsAt place) = row.violations := by
        apply List.filter_eq_self.2
        intro v hv
        rw [← hplace]
        exact decide_eq_true (Row.isAt_place hv)
      rw [hall, List.filter_cons_of_pos (by simpa using hplace), List.flatMap_cons]
    · have hnone : row.violations.filter (·.IsAt place) = [] := by
        apply List.filter_eq_nil_iff.2
        intro v hv hat
        exact hplace ((Row.isAt_place hv).unique (of_decide_eq_true hat))
      rw [hnone, List.nil_append, List.filter_cons_of_neg (by simpa using hplace)]

/-- Rows that agree in their keys, and wholly at a place, are the same rows at this place. -/
theorem filter_place_eq {rows rows' : List Row} {place : Table × Nat}
    (hkeys : rows.map Row.keyOnly = rows'.map Row.keyOnly)
    (hsame : ∀ row ∈ rows, ∀ row' ∈ rows', row.place = place → row'.place = place → row = row') :
    rows.filter (·.place = place) = rows'.filter (·.place = place) := by
  induction rows generalizing rows' with
  | nil =>
    obtain rfl := List.map_eq_nil_iff.1 hkeys.symm
    rfl
  | cons row rows ih =>
    cases rows' with
    | nil => cases hkeys
    | cons row' rows' =>
      rw [List.map_cons, List.map_cons, List.cons.injEq] at hkeys
      obtain ⟨hrow, hrows⟩ := hkeys
      have hplaces : row.place = row'.place := by
        rw [← row.place_keyOnly, hrow, row'.place_keyOnly]
      have hrest := ih hrows fun other hother other' hother' =>
        hsame other (List.mem_cons_of_mem _ hother) other' (List.mem_cons_of_mem _ hother')
      by_cases hplace : row.place = place
      · have hplace' : row'.place = place := hplaces ▸ hplace
        have heq := hsame row List.mem_cons_self row' List.mem_cons_self hplace hplace'
        rw [List.filter_cons_of_pos (by simpa using hplace),
          List.filter_cons_of_pos (by simpa using hplace'), heq, hrest]
      · have hplace' : ¬row'.place = place := hplaces ▸ hplace
        rw [List.filter_cons_of_neg (by simpa using hplace),
          List.filter_cons_of_neg (by simpa using hplace'), hrest]

end LinkedDocs.Evaluation

namespace LinkedDocs.Dataset

open Evaluation

/-! ## The rows of a dataset by their places -/

/-- A main row is told by its number and its fields. -/
theorem MainRow.eq_of_fields {row row' : MainRow} (hindex : row.rowIndex = row'.rowIndex)
    (hfields : row.fields = row'.fields) : row = row' := by
  rcases row with ⟨index, id, date, deleted, nested, nonSearchable, text, textArray, ignoreMe⟩
  obtain rfl : index = row'.rowIndex := hindex
  cases hfields
  rfl

/-- A related row is told by its kind, its number and its fields. -/
theorem RelatedRow.eq_of_fields {row row' : RelatedRow} (hkind : row.kind = row'.kind)
    (hindex : row.rowIndex = row'.rowIndex) (hfields : row.fields = row'.fields) : row = row' := by
  rcases row with ⟨kind, index, id, parentId, value, ignoreMe⟩
  obtain rfl : kind = row'.kind := hkind
  obtain rfl : index = row'.rowIndex := hindex
  cases hfields
  rfl

namespace Rows

variable {d d' : Rows} {dir dir' : String} {headers headers' : Bool} {t t' : FileTree}
  {place : Table × Nat}

/-- The row at a place. -/
def row? (d : Rows) : Table × Nat → Option Row
  | (.main, i) => d.main[i]?.map .main
  | (.related kind, i) => (d.related kind)[i]?.map (.related kind)

/-- The fields of the row at a place. -/
def fields? (d : Rows) (place : Table × Nat) : Option (List String) :=
  (d.row? place).map fun
    | .main row => row.fields
    | .related _ row => row.fields

/-- The rows whose columns are checked. -/
def checked (d : Rows) : List Row := d.groups.flatMap groupRows

/-- The checked rows of a blanked dataset are the blanked rows. -/
theorem checked_keyOnly (d : Rows) : d.keyOnly.checked = d.checked.map Row.keyOnly := by
  unfold checked
  rw [groups_keyOnly, List.flatMap_map, List.map_flatMap]
  exact List.flatMap_congr fun group _ => groupRows_keyOnly group

/-- A row that is checked is the row at its place. -/
theorem row?_of_mem_checked (h : d.ReadFrom dir headers t) {row : Row} (hrow : row ∈ d.checked) :
    d.row? row.place = some row := by
  obtain ⟨hmains, hrelated⟩ := h.placed
  obtain ⟨group, hgroup, hrow⟩ := List.mem_flatMap.1 hrow
  have hplaced : ∀ kind, ∀ other ∈ d.related kind,
      d.row? (Row.related kind other).place = some (.related kind other) := by
    intro kind other hother
    obtain ⟨i, hi, rfl⟩ := List.getElem_of_mem hother
    show ((d.related kind)[(d.related kind)[i].rowIndex]?).map (Row.related kind) = _
    rw [(hrelated kind i hi).1, List.getElem?_eq_getElem hi]
    rfl
  obtain ⟨hchildren, hinlines⟩ := mem_of_mem_groupsOf hgroup
  rw [groupRows, List.mem_cons, List.mem_append, List.mem_map, List.mem_map] at hrow
  rcases hrow with rfl | ⟨other, hother, rfl⟩ | ⟨other, hother, rfl⟩
  · have hmem : group.main ∈ d.main := by
      rw [← map_main_groupsOf d.main (d.related .child) (d.related .inline)]
      exact List.mem_map_of_mem hgroup
    obtain ⟨i, hi, hmain⟩ := List.getElem_of_mem hmem
    rw [← hmain]
    show (d.main[d.main[i].rowIndex]?).map Row.main = _
    rw [hmains i hi, List.getElem?_eq_getElem hi]
    rfl
  · exact hplaced .child other (hchildren other hother)
  · exact hplaced .inline other (hinlines other hother)

/-- Rows at the same place with the same fields are the same row. -/
theorem row_eq_of_fields? (h : d.ReadFrom dir headers t) (h' : d'.ReadFrom dir' headers' t')
    {row row' : Row} (hrow : d.row? place = some row) (hrow' : d'.row? place = some row')
    (hfields : d.fields? place = d'.fields? place) : row = row' := by
  obtain ⟨hmains, hrelated⟩ := h.placed
  obtain ⟨hmains', hrelated'⟩ := h'.placed
  unfold fields? at hfields
  rw [hrow, hrow', Option.map_some, Option.map_some, Option.some.injEq] at hfields
  obtain ⟨table, i⟩ := place
  cases table with
  | main =>
    obtain ⟨main, hmain, rfl⟩ := Option.map_eq_some_iff.1 hrow
    obtain ⟨main', hmain', rfl⟩ := Option.map_eq_some_iff.1 hrow'
    obtain ⟨hi, rfl⟩ := List.getElem?_eq_some_iff.1 hmain
    obtain ⟨hi', rfl⟩ := List.getElem?_eq_some_iff.1 hmain'
    have hindex : d.main[i].rowIndex = d'.main[i].rowIndex := by rw [hmains i hi, hmains' i hi']
    rw [MainRow.eq_of_fields hindex hfields]
  | related kind =>
    obtain ⟨other, hother, rfl⟩ := Option.map_eq_some_iff.1 hrow
    obtain ⟨other', hother', rfl⟩ := Option.map_eq_some_iff.1 hrow'
    obtain ⟨hi, rfl⟩ := List.getElem?_eq_some_iff.1 hother
    obtain ⟨hi', rfl⟩ := List.getElem?_eq_some_iff.1 hother'
    obtain ⟨hnumber, hkind⟩ := hrelated kind i hi
    obtain ⟨hnumber', hkind'⟩ := hrelated' kind i hi'
    rw [RelatedRow.eq_of_fields (hkind.trans hkind'.symm) (hnumber.trans hnumber'.symm) hfields]

/-! ## Two datasets with the same key columns -/

/-- The other violations at a place, by the row there. -/
theorem otherViolations_isAt (d : Rows) (place : Table × Nat) :
    (otherViolations d.violations).filter (·.IsAt place) =
      (d.checked.filter (·.place = place)).flatMap Row.violations := by
  unfold violations
  rw [otherViolations_eq]
  exact filter_isAt_violations d.checked place

section

variable (h : d.ReadFrom dir headers t) (h' : d'.ReadFrom dir' headers' t')
  (hkeys : d.keys = d'.keys)

include h h' hkeys

/-- Datasets with equal keys have the same violations about keys. -/
theorem keyViolations_eq : keyViolations d.violations = keyViolations d'.violations := by
  have hblanked : ∀ rows : Rows,
      keyViolations rows.keyOnly.violations = keyViolations rows.violations := by
    intro rows
    unfold violations
    rw [groups_keyOnly, left_keyOnly]
    exact keyViolations_keyOnly rows.groups rows.left
  rw [← hblanked d, ← hblanked d', keyOnly_eq h h' hkeys]

/-- Datasets with equal keys have as many rows of each sort. -/
theorem rowCounts_eq :
    d.summary.mainRows = d'.summary.mainRows ∧ d.summary.childRows = d'.summary.childRows ∧
      d.summary.inlineRows = d'.summary.inlineRows ∧
      d.summary.orphanRows = d'.summary.orphanRows := by
  have hcount : ∀ (rows : Group → List RelatedRow) (groups : List Group),
      (∀ group, rows group.keyOnly = (rows group).map RelatedRow.keyOnly) →
      Tally.rowCount rows (groups.map Group.keyOnly) = Tally.rowCount rows groups := by
    intro rows groups hrows
    unfold Tally.rowCount
    rw [List.flatMap_map, List.flatMap_congr fun group _ => hrows group, ← List.map_flatMap,
      List.length_map]
  have hblanked : ∀ rows : Rows,
      rows.keyOnly.summary.mainRows = rows.summary.mainRows ∧
        rows.keyOnly.summary.childRows = rows.summary.childRows ∧
        rows.keyOnly.summary.inlineRows = rows.summary.inlineRows ∧
        rows.keyOnly.summary.orphanRows = rows.summary.orphanRows := by
    intro rows
    unfold summary
    dsimp only
    rw [groups_keyOnly, left_keyOnly, List.length_map, List.length_map,
      hcount _ _ fun _ => rfl, hcount _ _ fun _ => rfl, hcount _ _ fun _ => rfl]
    exact ⟨rfl, rfl, rfl, rfl⟩
  obtain ⟨hmain, hchild, hinline, horphan⟩ := hblanked d
  obtain ⟨hmain', hchild', hinline', horphan'⟩ := hblanked d'
  rw [← hmain, ← hchild, ← hinline, ← horphan, keyOnly_eq h h' hkeys]
  exact ⟨hmain', hchild', hinline', horphan'⟩

/-- A row whose fields are the same in both has the same violations of other columns. -/
theorem otherViolations_isAt_eq (hfields : d.fields? place = d'.fields? place) :
    (otherViolations d.violations).filter (·.IsAt place) =
      (otherViolations d'.violations).filter (·.IsAt place) := by
  have hrows : d.checked.map Row.keyOnly = d'.checked.map Row.keyOnly := by
    rw [← checked_keyOnly, ← checked_keyOnly, keyOnly_eq h h' hkeys]
  rw [otherViolations_isAt, otherViolations_isAt]
  refine congrArg _ (filter_place_eq hrows fun row hrow row' hrow' hplace hplace' => ?_)
  have hat := row?_of_mem_checked h hrow
  have hat' := row?_of_mem_checked h' hrow'
  rw [hplace] at hat
  rw [hplace'] at hat'
  exact row_eq_of_fields? h h' hat hat' hfields

/-- If one has no violation, and they differ in one row, all violations are at this row. -/
theorem isAt_of_clean (hclean : d.violations = [])
    (hsame : ∀ other, other ≠ place → d.fields? other = d'.fields? other) :
    ∀ v ∈ d'.violations, v.IsAt place := by
  intro v hv
  have hkey : v.concernsKeys = false := by
    have hnone := keyViolations_eq h h' hkeys
    rw [hclean] at hnone
    exact Bool.eq_false_iff.2 (List.filter_eq_nil_iff.1 hnone.symm v hv)
  have hother : v ∈ otherViolations d'.violations := by
    apply List.mem_filter.2
    rw [hkey]
    exact ⟨hv, rfl⟩
  -- Any violation is of a row, and of no row but the one at the place.
  have hrow := hother
  unfold violations at hrow
  rw [otherViolations_eq] at hrow
  obtain ⟨row, -, hmem⟩ := List.mem_flatMap.1 hrow
  have hat := Row.isAt_place hmem
  by_cases hplace : row.place = place
  · rw [← hplace]
    exact hat
  · have hnone := otherViolations_isAt_eq h h' hkeys (hsame row.place hplace)
    rw [hclean] at hnone
    exact absurd (decide_eq_true hat) (List.filter_eq_nil_iff.1 hnone.symm v hother)

end

end Rows

end LinkedDocs.Dataset

namespace LinkedDocs.Evaluation

open Dataset

/--
Two datasets whose rows can be read, with the same key columns, have the same
violations about ids, batches and orphans, and as many rows of each sort. A row
whose fields are the same in both has the same other violations. If one dataset
is clean, and the other differs from it in one row only, all violations of the
other are at this row.
-/
theorem other_columns_do_not_interfere {d d' : Rows} {dir dir' : String}
    {session session' : Session} {options options' : Options}
    (hread : d.ReadFrom dir options.headers session.tree)
    (hread' : d'.ReadFrom dir' options'.headers session'.tree) (hkeys : d.keys = d'.keys) :
    (options.strict = false → ∃ result after, run options dir session = (.ok result, after)) ∧
    (options'.strict = false →
      ∃ result after, run options' dir' session' = (.ok result, after)) ∧
    ∀ result after result' after', run options dir session = (.ok result, after) →
      run options' dir' session' = (.ok result', after') →
      (result.summary.mainRows = result'.summary.mainRows ∧
        result.summary.childRows = result'.summary.childRows ∧
        result.summary.inlineRows = result'.summary.inlineRows ∧
        result.summary.orphanRows = result'.summary.orphanRows) ∧
      (result.violationCount ≤ options.maxExamples →
        result'.violationCount ≤ options'.maxExamples →
        keyViolations result.violations = keyViolations result'.violations ∧
        (∀ place, d.fields? place = d'.fields? place →
          (otherViolations result.violations).filter (·.IsAt place) =
            (otherViolations result'.violations).filter (·.IsAt place)) ∧
        (result.violationCount = 0 → ∀ place,
          (∀ other, other ≠ place → d.fields? other = d'.fields? other) →
          ∀ v ∈ result'.violations, v.IsAt place)) := by
  refine ⟨fun hlenient => (Rows.exists_result_iff hlenient).2 ⟨d, hread⟩,
    fun hlenient => (Rows.exists_result_iff hlenient).2 ⟨d', hread'⟩, ?_⟩
  intro result after result' after' hrun hrun'
  obtain ⟨rfl, -⟩ := (Rows.run_ok_iff hread).1 ⟨after, hrun⟩
  obtain ⟨rfl, -⟩ := (Rows.run_ok_iff hread').1 ⟨after', hrun'⟩
  refine ⟨Rows.rowCounts_eq hread hread' hkeys, ?_⟩
  intro hall hall'
  unfold Rows.result at hall hall' ⊢
  dsimp only at hall hall' ⊢
  rw [List.take_of_length_le hall, List.take_of_length_le hall']
  refine ⟨Rows.keyViolations_eq hread hread' hkeys,
    fun place => Rows.otherViolations_isAt_eq hread hread' hkeys, ?_⟩
  intro hclean place hsame
  exact Rows.isAt_of_clean hread hread' hkeys (List.length_eq_zero_iff.1 hclean) hsame

/-- The good rows that a reader holds. -/
def goodRowsOf (r : Reader) : Rows where
  main := goodRows r.main
  related kind := goodRows (r.related kind).rest

/-- No row that a reader holds is bad. -/
def AllGood (r : Reader) : Prop :=
  r.main.all (·.toOption.isSome) ∧ r.child.rest.all (·.toOption.isSome) ∧
    r.inline.rest.all (·.toOption.isSome)

instance (r : Reader) : Decidable (AllGood r) := inferInstanceAs (Decidable (_ ∧ _))

/-- Rows of a reader without bad ones are the rows of its dataset. -/
theorem AllGood.readFrom {dir : String} {headers : Bool} {t tree : FileTree} {r : Reader}
    (h : AllGood r) (hopen : Reader.openDir dir headers t = (.ok r, tree)) :
    (goodRowsOf r).ReadFrom dir headers t :=
  ⟨r, tree, hopen, map_goodRows h.1, map_goodRows h.2.1, map_goodRows h.2.2⟩

/-- The sound document with a word in place of its date. -/
def misdatedFiles : Files where
  main := .file ("ID000000,yesterday,true," ++
    "\"\x7b\"\"key\"\":\"\"AB1-KEY\"\",\"\"value\"\":\"\"12.50\"\",\"\"name\"\":\"\"x\"\"\x7d\"," ++
    "Lorem ipsum.,Lorem.,\"\x7b'a','b','c'\x7d\",Alert dbonly.\n").toByteArray
  child := soundFiles.child
  inline := soundFiles.inline

/-- Datasets of one main row each, with the same related rows, differ in the main row at most. -/
theorem fields?_eq_of_one {d d' : Rows} (hone : d.main.length = 1) (hone' : d'.main.length = 1)
    (hrelated : ∀ kind, d.related kind = d'.related kind) {place : Table × Nat}
    (hplace : place ≠ (.main, 0)) : d.fields? place = d'.fields? place := by
  obtain ⟨table, i⟩ := place
  unfold Rows.fields? Rows.row?
  cases table with
  | main =>
    have hi : i ≠ 0 := fun hi => hplace (by rw [hi])
    have hnone : d.main[i]? = none := List.getElem?_eq_none (by omega)
    have hnone' : d'.main[i]? = none := List.getElem?_eq_none (by omega)
    dsimp only
    rw [hnone, hnone']
  | related kind =>
    dsimp only
    rw [hrelated kind]

/-- With a word in place of its date, a row of a clean dataset is reported, and no other row is. -/
theorem misdated_row_alone_is_reported :
    ∃ d d' : Rows, d.ReadFrom "data" false soundFiles.dataTree ∧
      d'.ReadFrom "data" false misdatedFiles.dataTree ∧ d.keys = d'.keys ∧
      ∃ result after result' after',
        run { strict := false } "data" { tree := soundFiles.dataTree } = (.ok result, after) ∧
        run { strict := false } "data" { tree := misdatedFiles.dataTree } = (.ok result', after') ∧
        result.violationCount = 0 ∧ result'.violations ≠ [] ∧
        ∀ v ∈ result'.violations, v.IsAt (.main, 0) := by
  -- The rows are evaluated, not the runs: the table of seen ids does not reduce.
  have hok : (Reader.openDir "data" false soundFiles.dataTree).1.toOption.any (fun r =>
      decide (AllGood r ∧ (goodRowsOf r).main.length = 1 ∧ (goodRowsOf r).violations = [] ∧
        (goodRowsOf r).main.map (·.id) = ["ID000000"] ∧
        (Reader.openDir "data" false misdatedFiles.dataTree).1.toOption.any fun r' =>
          decide (AllGood r' ∧ (goodRowsOf r').main.length = 1 ∧
            (goodRowsOf r').violations.length = 1 ∧
            (goodRowsOf r').main.map (·.id) = ["ID000000"] ∧
            (goodRowsOf r).related .child = (goodRowsOf r').related .child ∧
            (goodRowsOf r).related .inline = (goodRowsOf r').related .inline))) = true := by
    decide +kernel
  obtain ⟨r, tree, hopen, hr⟩ := exists_ok_of_fst_any hok
  simp only [decide_eq_true_eq] at hr
  obtain ⟨hgood, hone, hclean, hids, hok'⟩ := hr
  obtain ⟨r', tree', hopen', hr'⟩ := exists_ok_of_fst_any hok'
  simp only [decide_eq_true_eq] at hr'
  obtain ⟨hgood', hone', hcount, hids', hchild, hinline⟩ := hr'
  have hrelated : ∀ kind, (goodRowsOf r).related kind = (goodRowsOf r').related kind := by
    intro kind
    cases kind with
    | child => exact hchild
    | inline => exact hinline
  have hkeys : (goodRowsOf r).keys = (goodRowsOf r').keys := by
    unfold Rows.keys
    rw [hids, hids', Prod.mk.injEq]
    exact ⟨rfl, funext fun kind => by rw [hrelated kind]⟩
  have hsame : ∀ place, place ≠ (.main, 0) →
      (goodRowsOf r).fields? place = (goodRowsOf r').fields? place :=
    fun place => fields?_eq_of_one hone hone' hrelated
  have hread := hgood.readFrom hopen
  have hread' := hgood'.readFrom hopen'
  have hboth := @other_columns_do_not_interfere _ _ "data" "data" { tree := soundFiles.dataTree }
    { tree := misdatedFiles.dataTree } { strict := false } { strict := false } hread hread' hkeys
  obtain ⟨result, after, hrun⟩ := hboth.1 rfl
  obtain ⟨result', after', hrun'⟩ := hboth.2.1 rfl
  obtain ⟨hresult, -⟩ := (@Rows.run_ok_iff _ _ { tree := soundFiles.dataTree }
    { strict := false } _ hread).1 ⟨after, hrun⟩
  obtain ⟨hresult', -⟩ := (@Rows.run_ok_iff _ _ { tree := misdatedFiles.dataTree }
    { strict := false } _ hread').1 ⟨after', hrun'⟩
  have hzero : result.violationCount = 0 := by
    rw [hresult]
    exact List.length_eq_zero_iff.2 hclean
  have hall : result'.violationCount = 1 := by
    rw [hresult']
    exact hcount
  obtain ⟨-, -, hlocated⟩ := (hboth.2.2 _ _ _ _ hrun hrun').2 (by rw [hzero]; decide)
    (by rw [hall]; decide)
  have hsome : result'.violations ≠ [] := by
    rw [hresult']
    apply List.ne_nil_of_length_pos
    show 0 < ((goodRowsOf r').violations.take 20).length
    rw [List.length_take, hcount]
    decide
  exact ⟨_, _, hread, hread', hkeys, result, after, result', after', hrun, hrun', hzero, hsome,
    hlocated hzero _ hsame⟩

end LinkedDocs.Evaluation
