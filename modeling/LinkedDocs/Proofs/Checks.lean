import LinkedDocs.Proofs.Reports

/-!
# The checks behind the reports

An evaluation checks each row that a main row takes, the size of each batch, and
each orphan. Which checks these are is told by the groups alone; only whether the id
of a row repeats depends on the checks before. So what a selection of the violations
holds is told check by check, without another walk through the groups.

* `checksOf`: the checks of a dataset, in order; `found`: the violations that they find.
* `violationsOf_eq_found`: these are the violations of the dataset.
* `rowsOf_checksOf`, `size_mem_checksOf_iff`: the rows and the batches that are checked.
* `filter_violationsOf`: a selection that looks at the rows only.
-/

namespace LinkedDocs.Evaluation

open Dataset

/-! ## Checks -/

/-- A row of one of the files. -/
inductive Row where
  | main (row : MainRow)
  | related (kind : RelatedKind) (row : RelatedRow)

/-- The id of the row. -/
def Row.id : Row → String
  | main row => row.id
  | related _ row => row.id

/-- One check of an evaluation. -/
inductive Check where
  /-- A main row, held against its number. -/
  | main (row : MainRow) (expected : Nat)
  /-- The number of rows in a batch of a main row. -/
  | size (kind : RelatedKind) (owner : MainRow) (count : Nat)
  /-- A related row, held against its place in the batch of a main document. -/
  | related (kind : RelatedKind) (parent sequence : Nat) (row : RelatedRow)
  /-- A related row without a main row. -/
  | orphan (row : RelatedRow)

namespace Check

/-- The row whose columns are checked. -/
def row? : Check → Option Row
  | main row _ => some (.main row)
  | related kind _ _ row => some (.related kind row)
  | _ => none

/-- The violations that the check finds; `repeated` says that the id of its row repeats. -/
def violations (repeated : Bool) : Check → List Violation
  | main row expected => mainViolations row expected repeated
  | size kind owner count => sizeViolations kind owner count
  | related kind parent sequence row => relatedViolations kind parent sequence row repeated
  | orphan row => [orphanViolation row]

/-- The row of the check has one of these ids. -/
def repeats (ids : List String) (check : Check) : Bool :=
  check.row?.any fun row => ids.contains row.id

end Check

/-- The rows of checks, in order. -/
def rowsOf (checks : List Check) : List Row := checks.filterMap Check.row?

/-- The violations that checks find after rows with these ids. -/
def found (ids : List String) : List Check → List Violation
  | [] => []
  | check :: rest =>
    check.violations (check.repeats ids) ++ found (ids ++ (rowsOf [check]).map Row.id) rest

/-- What is found behind other checks depends on them by the ids of their rows. -/
theorem found_append (ids : List String) (checks more : List Check) :
    found ids (checks ++ more) =
      found ids checks ++ found (ids ++ (rowsOf checks).map Row.id) more := by
  induction checks generalizing ids with
  | nil =>
    rw [rowsOf, List.filterMap_nil, List.map_nil, List.append_nil]
    rfl
  | cons check checks ih =>
    have hids : (rowsOf (check :: checks)).map Row.id =
        (rowsOf [check]).map Row.id ++ (rowsOf checks).map Row.id := by
      rw [← List.map_append, rowsOf, rowsOf, rowsOf, ← List.filterMap_append]
      rfl
    rw [List.cons_append, found, found, ih, hids, List.append_assoc, List.append_assoc]

/-- Every violation is found by a check. -/
theorem exists_check_of_mem_found {ids : List String} {checks : List Check} {v : Violation}
    (h : v ∈ found ids checks) : ∃ check ∈ checks, ∃ repeated, v ∈ check.violations repeated := by
  induction checks generalizing ids with
  | nil => cases h
  | cons check checks ih =>
    rw [found, List.mem_append] at h
    rcases h with hfirst | hrest
    · exact ⟨check, List.mem_cons_self, _, hfirst⟩
    · obtain ⟨other, hother, hv⟩ := ih hrest
      exact ⟨other, List.mem_cons_of_mem _ hother, hv⟩

/-- What a check finds whether or not an id repeats is found after any ids. -/
theorem mem_found {ids : List String} {checks : List Check} {check : Check} {v : Violation}
    (hcheck : check ∈ checks) (h : ∀ repeated, v ∈ check.violations repeated) :
    v ∈ found ids checks := by
  obtain ⟨front, back, rfl⟩ := List.append_of_mem hcheck
  rw [found_append, found]
  exact List.mem_append_right _ (List.mem_append_left _ (h _))

/-! ## The checks of a dataset -/

/-- The checks of rows from place `sequence` of a batch on. -/
def rowChecks (kind : RelatedKind) (parent sequence : Nat) (rows : List RelatedRow) :
    List Check :=
  rows.mapIdx fun j row => .related kind parent (sequence + j) row

/-- The checks of a batch of a main row. -/
def batchChecks (kind : RelatedKind) (main : MainRow) (parent : Nat) (rows : List RelatedRow) :
    List Check :=
  .size kind main rows.length :: rowChecks kind parent 0 rows

/-- The checks of group number `expected`. -/
def groupChecks (expected : Nat) (group : Group) : List Check :=
  let parent := Tally.parentIndex group expected
  [.main group.main expected] ++ batchChecks .child group.main parent group.children
    ++ batchChecks .inline group.main parent group.inlines ++ group.orphans.map .orphan

/-- The checks of groups from number `expected` on. -/
def groupsChecks (expected : Nat) (groups : List Group) : List Check :=
  (groups.mapIdx fun i => groupChecks (expected + i)).flatten

/-- The checks of a dataset that is read as these groups and the rows left over. -/
def checksOf (groups : List Group) (left : List RelatedRow) : List Check :=
  groupsChecks 0 groups ++ left.map .orphan

theorem rowChecks_cons (kind : RelatedKind) (parent sequence : Nat) (row : RelatedRow)
    (rows : List RelatedRow) :
    rowChecks kind parent sequence (row :: rows) =
      .related kind parent sequence row :: rowChecks kind parent (sequence + 1) rows := by
  simp only [rowChecks, List.mapIdx_cons, Nat.add_zero, Nat.add_assoc, Nat.add_comm 1]

theorem groupsChecks_cons (expected : Nat) (group : Group) (groups : List Group) :
    groupsChecks expected (group :: groups) =
      groupChecks expected group ++ groupsChecks (expected + 1) groups := by
  simp only [groupsChecks, List.mapIdx_cons, List.flatten_cons, Nat.add_zero, Nat.add_assoc,
    Nat.add_comm 1]

/-! ### The rows that are checked -/

/-- The rows of a group whose columns are checked: all but the orphans. -/
def groupRows (group : Group) : List Row :=
  .main group.main ::
    (group.children.map (.related .child) ++ group.inlines.map (.related .inline))

theorem rowsOf_append (checks more : List Check) :
    rowsOf (checks ++ more) = rowsOf checks ++ rowsOf more :=
  List.filterMap_append

/-- The rows that are checked of a batch are all of it, in order. -/
theorem rowsOf_batchChecks (kind : RelatedKind) (main : MainRow) (parent : Nat)
    (rows : List RelatedRow) :
    rowsOf (batchChecks kind main parent rows) = rows.map (.related kind) := by
  have hrows : ∀ sequence, rowsOf (rowChecks kind parent sequence rows) =
      rows.map (.related kind) := by
    induction rows with
    | nil => exact fun _ => rfl
    | cons row rows ih =>
      intro sequence
      rw [rowChecks_cons, List.map_cons, ← ih (sequence + 1)]
      rfl
  exact hrows 0

/-- An orphan is reported as such, and not checked otherwise. -/
theorem rowsOf_orphans (rows : List RelatedRow) : rowsOf (rows.map .orphan) = [] := by
  rw [rowsOf, List.filterMap_map, List.filterMap_eq_nil_iff]
  exact fun _ _ => rfl

/-- The checked rows of a group are its main row and its two batches. -/
theorem rowsOf_groupChecks (expected : Nat) (group : Group) :
    rowsOf (groupChecks expected group) = groupRows group := by
  unfold groupChecks groupRows
  simp only [rowsOf_append, rowsOf_batchChecks, rowsOf_orphans, List.append_nil, List.append_assoc]
  rfl

/-- The rows that are checked are those of the groups, one group after the other. -/
theorem rowsOf_checksOf (groups : List Group) (left : List RelatedRow) :
    rowsOf (checksOf groups left) = groups.flatMap groupRows := by
  have hgroups : ∀ expected, rowsOf (groupsChecks expected groups) =
      groups.flatMap groupRows := by
    induction groups with
    | nil => exact fun _ => rfl
    | cons group groups ih =>
      intro expected
      rw [groupsChecks_cons, rowsOf_append, rowsOf_groupChecks, ih, List.flatMap_cons]
  rw [checksOf, rowsOf_append, hgroups, rowsOf_orphans, List.append_nil]

/-- The ids of a group are those of its rows, in the order in which they are checked. -/
theorem groupIds_eq (group : Group) :
    Tally.groupIds group = (groupRows group).map Row.id := by
  unfold Tally.groupIds groupRows
  simp only [List.map_cons, List.map_append, List.map_map]
  rfl

/-! ### The batches that are checked -/

/-- Only the check of the batch itself is one of its size. -/
theorem size_mem_batchChecks_iff {kind kind' : RelatedKind} {owner main : MainRow}
    {parent count : Nat} {rows : List RelatedRow} :
    .size kind owner count ∈ batchChecks kind' main parent rows ↔
      kind = kind' ∧ owner = main ∧ count = rows.length := by
  have hrows : .size kind owner count ∉ rowChecks kind' parent 0 rows := by
    rw [rowChecks, List.mem_mapIdx]
    rintro ⟨_, _, h⟩
    cases h
  rw [batchChecks, List.mem_cons, or_iff_left hrows, Check.size.injEq]

/-- The sizes that are checked are those of the two batches of each group. -/
theorem size_mem_checksOf_iff {kind : RelatedKind} {owner : MainRow} {count : Nat}
    {groups : List Group} {left : List RelatedRow} :
    .size kind owner count ∈ checksOf groups left ↔
      ∃ group ∈ groups, owner = group.main ∧ count = (group.related kind).length := by
  have horphans : ∀ rows : List RelatedRow, .size kind owner count ∉ rows.map Check.orphan := by
    intro rows h
    obtain ⟨_, -, h⟩ := List.mem_map.1 h
    cases h
  have hgroup : ∀ expected group, .size kind owner count ∈ groupChecks expected group ↔
      owner = group.main ∧ count = (group.related kind).length := by
    intro expected group
    simp only [groupChecks, List.mem_append, List.mem_singleton, size_mem_batchChecks_iff,
      horphans, or_false]
    cases kind with
    | child => simp [Group.related]
    | inline => simp [Group.related]
  have hgroups : ∀ expected, .size kind owner count ∈ groupsChecks expected groups ↔
      ∃ group ∈ groups, owner = group.main ∧ count = (group.related kind).length := by
    induction groups with
    | nil => simp [groupsChecks]
    | cons group groups ih =>
      intro expected
      rw [groupsChecks_cons, List.mem_append, hgroup, ih]
      simp only [List.mem_cons, exists_eq_or_imp]
  rw [checksOf, List.mem_append, hgroups, or_iff_left (horphans left)]

/-! ### The violations that they find -/

theorem rowsViolations_eq_found (kind : RelatedKind) (parent sequence : Nat) (ids : List String)
    (rows : List RelatedRow) :
    rowsViolations kind parent sequence ids rows =
      found ids (rowChecks kind parent sequence rows) := by
  induction rows generalizing sequence ids with
  | nil => rfl
  | cons row rows ih =>
    rw [rowChecks_cons, rowsViolations, found, ih]
    rfl

theorem batchViolations_eq_found (kind : RelatedKind) (main : MainRow) (parent : Nat)
    (ids : List String) (rows : List RelatedRow) :
    batchViolations kind main parent ids rows =
      found ids (batchChecks kind main parent rows) := by
  have hids : ids ++ (rowsOf [Check.size kind main rows.length]).map Row.id = ids :=
    List.append_nil ids
  rw [batchViolations, batchChecks, found, hids, rowsViolations_eq_found]
  rfl

/-- Orphans are reported whatever ids were seen. -/
theorem orphans_eq_found (ids : List String) (rows : List RelatedRow) :
    rows.map orphanViolation = found ids (rows.map .orphan) := by
  induction rows generalizing ids with
  | nil => rfl
  | cons row rows ih =>
    rw [List.map_cons, List.map_cons, found, ← ih]
    rfl

/-- The violations of a group are those that its checks find after the rows before it. -/
theorem groupViolations_eq_found (expected : Nat) (ids : List String) (group : Group) :
    groupViolations expected ids group = found ids (groupChecks expected group) := by
  have hmain : mainViolations group.main expected (ids.contains group.main.id) =
      found ids [.main group.main expected] := (List.append_nil _).symm
  have hchildren : (rowsOf (batchChecks .child group.main (Tally.parentIndex group expected)
      group.children)).map Row.id = group.children.map (·.id) := by
    rw [rowsOf_batchChecks, List.map_map]
    rfl
  unfold groupViolations groupChecks
  simp only [found_append, rowsOf_append, List.map_append, hchildren, batchViolations_eq_found,
    hmain, ← orphans_eq_found, ← List.append_assoc]
  rfl

/-- The ids before a group are those of the rows of the checks before it. -/
theorem groupsViolations_eq_found (expected : Nat) (ids : List String) (groups : List Group) :
    groupsViolations expected ids groups = found ids (groupsChecks expected groups) := by
  induction groups generalizing expected ids with
  | nil => rfl
  | cons group groups ih =>
    rw [groupsChecks_cons, found_append, rowsOf_groupChecks, ← groupIds_eq, groupsViolations,
      groupViolations_eq_found, ih]

/-- The violations of a dataset are those that its checks find. -/
theorem violationsOf_eq_found (groups : List Group) (left : List RelatedRow) :
    violationsOf groups left = found [] (checksOf groups left) := by
  rw [violationsOf, checksOf, found_append, groupsViolations_eq_found, ← orphans_eq_found]

/-! ## Selections of the violations -/

/--
A selection that looks at the rows only, and at the ids before each of them, selects
by the rows of the checks: it is enough to know what it selects of one check.
-/
theorem filter_found {p : Violation → Bool} {pick : List String → List Row → List Violation}
    (hnil : ∀ ids, pick ids [] = [])
    (happend : ∀ ids rows more,
      pick ids (rows ++ more) = pick ids rows ++ pick (ids ++ rows.map Row.id) more)
    (hcheck : ∀ ids check,
      (check.violations (check.repeats ids)).filter p = pick ids (rowsOf [check]))
    (ids : List String) (checks : List Check) :
    (found ids checks).filter p = pick ids (rowsOf checks) := by
  induction checks generalizing ids with
  | nil => exact (hnil ids).symm
  | cons check checks ih =>
    have hrows : rowsOf (check :: checks) = rowsOf [check] ++ rowsOf checks :=
      rowsOf_append [check] checks
    rw [found, List.filter_append, hcheck, ih, hrows, happend]

/-- Such a selection of the violations of a dataset goes by the rows of its groups. -/
theorem filter_violationsOf {p : Violation → Bool}
    {pick : List String → List Row → List Violation} (hnil : ∀ ids, pick ids [] = [])
    (happend : ∀ ids rows more,
      pick ids (rows ++ more) = pick ids rows ++ pick (ids ++ rows.map Row.id) more)
    (hcheck : ∀ ids check,
      (check.violations (check.repeats ids)).filter p = pick ids (rowsOf [check]))
    (groups : List Group) (left : List RelatedRow) :
    (violationsOf groups left).filter p = pick [] (groups.flatMap groupRows) := by
  rw [violationsOf_eq_found, filter_found hnil happend hcheck, rowsOf_checksOf]

/-- The faults of a rule are picked all together, or not at all. -/
theorem filter_rule {ρ : Type} (picked : ρ → Bool) (rule : ρ) (messages : List String) :
    (messages.map fun message => (rule, message)).filter (fun fault => picked fault.1) =
      if picked rule then messages.map fun message => (rule, message) else [] := by
  by_cases hrule : picked rule = true
  · rw [if_pos hrule, List.filter_eq_self]
    intro fault hfault
    obtain ⟨message, -, rfl⟩ := List.mem_map.1 hfault
    exact hrule
  · rw [if_neg hrule, List.filter_eq_nil_iff]
    intro fault hfault
    obtain ⟨message, -, rfl⟩ := List.mem_map.1 hfault
    exact hrule

/-- A selection by codes selects the violations of a main row by their rules. -/
theorem filter_mainViolations {p : String → Bool} {picked : MainRule → Bool}
    (hpicked : ∀ rule, p rule.code = picked rule) (row : MainRow) (expected : Nat)
    (repeated : Bool) :
    (mainViolations row expected repeated).filter (fun v => p v.code) =
      ((mainFaults row expected repeated).filter fun fault => picked fault.1).map
        fun (rule, message) =>
          { code := rule.code, path := mainFileName ++ ":" ++ row.id, message,
            rowIndex := some row.rowIndex } := by
  unfold mainViolations
  rw [List.filter_map]
  exact congrArg _ (List.filter_congr fun fault _ => hpicked fault.1)

/-- A selection by codes takes the violation of a size or leaves it. -/
theorem filter_sizeViolations (p : String → Bool) (kind : RelatedKind) (owner : MainRow)
    (count : Nat) :
    (sizeViolations kind owner count).filter (fun v => p v.code) =
      if p (RelatedRule.batchSize.code kind) then sizeViolations kind owner count else [] := by
  unfold sizeViolations
  dsimp only
  split
  · exact (ite_self _).symm
  · rw [List.filter_singleton, cond_eq_ite]

/-- A selection by codes selects the violations of a related row by their rules. -/
theorem filter_relatedViolations {p : String → Bool} {picked : RelatedRule → Bool}
    {kind : RelatedKind} (hpicked : ∀ rule, p (rule.code kind) = picked rule)
    (parent sequence : Nat) (row : RelatedRow) (repeated : Bool) :
    (relatedViolations kind parent sequence row repeated).filter (fun v => p v.code) =
      ((relatedFaults kind parent sequence row repeated).filter fun fault =>
        picked fault.1).map fun (rule, message) =>
          { code := rule.code kind, path := relatedPath kind row.id, message,
            rowIndex := some row.rowIndex } := by
  unfold relatedViolations
  rw [List.filter_map]
  exact congrArg _ (List.filter_congr fun fault _ => hpicked fault.1)

end LinkedDocs.Evaluation
