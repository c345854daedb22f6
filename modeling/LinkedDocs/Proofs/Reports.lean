import LinkedDocs.Proofs.Tally
import Mathlib.Data.List.Induction

/-!
# What an evaluation reports

The reports of an evaluation are a list that depends on the groups alone: the
violations of each group, of which some depend on the ids of the rows before,
and then those of the rows that no group took. The tally counts the list and
keeps the front of it.

* `violationsOf`: the list.
* `Tally.Records`: a tally that has reported a list; each check adds to it.
* `run_reports`: the result of an evaluation is the length and the front of the list.
* `violationsOf_eq_nil_iff`: when there is nothing to report.
-/

namespace LinkedDocs.Evaluation

open Dataset

/-! ## The list -/

/-- The violations of rows from place `sequence` of a batch on, after rows with these ids. -/
def rowsViolations (kind : RelatedKind) (parent sequence : Nat) (ids : List String) :
    List RelatedRow → List Violation
  | [] => []
  | row :: rest =>
    relatedViolations kind parent sequence row (ids.contains row.id) ++
      rowsViolations kind parent (sequence + 1) (ids ++ [row.id]) rest

/-- The violations of a batch of a main row, after rows with these ids. -/
def batchViolations (kind : RelatedKind) (main : MainRow) (parent : Nat) (ids : List String)
    (rows : List RelatedRow) : List Violation :=
  sizeViolations kind main rows.length ++ rowsViolations kind parent 0 ids rows

/-- The violations of group number `expected`, after rows with these ids. -/
def groupViolations (expected : Nat) (ids : List String) (group : Group) : List Violation :=
  let parent := Tally.parentIndex group expected
  mainViolations group.main expected (ids.contains group.main.id)
    ++ batchViolations .child group.main parent (ids ++ [group.main.id]) group.children
    ++ batchViolations .inline group.main parent
        (ids ++ [group.main.id] ++ group.children.map (·.id)) group.inlines
    ++ group.orphans.map orphanViolation

/-- The violations of groups from number `expected` on, after rows with these ids. -/
def groupsViolations (expected : Nat) (ids : List String) : List Group → List Violation
  | [] => []
  | group :: groups =>
    groupViolations expected ids group ++
      groupsViolations (expected + 1) (ids ++ Tally.groupIds group) groups

/-- The violations of a dataset that is read as these groups and the rows left over. -/
def violationsOf (groups : List Group) (left : List RelatedRow) : List Violation :=
  groupsViolations 0 [] groups ++ left.map orphanViolation

/-- Further groups are checked on from the next number, after the ids before them. -/
theorem groupsViolations_append (expected : Nat) (ids : List String) (groups more : List Group) :
    groupsViolations expected ids (groups ++ more) =
      groupsViolations expected ids groups ++ groupsViolations (expected + groups.length)
        (ids ++ groups.flatMap Tally.groupIds) more := by
  induction groups generalizing expected ids with
  | nil => simp [groupsViolations]
  | cons group groups ih =>
    rw [List.cons_append, groupsViolations, ih, groupsViolations, List.append_assoc,
      List.length_cons, List.flatMap_cons, List.append_assoc, Nat.add_right_comm, Nat.add_assoc]

/-! ## What the tally makes of it -/

namespace Tally

variable {t : Tally} {most : Nat} {ids : List String} {found : List Violation}

/-- The tally has checked rows with these ids and has reported these violations. -/
structure Records (t : Tally) (most : Nat) (ids : List String) (found : List Violation) :
    Prop where
  most_eq : t.most = most
  seen_iff : ∀ id, t.hasSeen id = true ↔ id ∈ ids
  count_eq : t.violationCount = found.length
  examples_eq : t.examples.toList = found.take most

/-- Nothing is recorded before the first group. -/
theorem records_nil (most : Nat) : ({ most } : Tally).Records most [] [] where
  most_eq := rfl
  seen_iff _ := iff_of_false (Bool.eq_false_iff.1 Std.HashSet.contains_empty) List.not_mem_nil
  count_eq := rfl
  examples_eq := List.take_nil.symm

namespace Records

/-- The tally has seen just the ids that are recorded. -/
theorem hasSeen_eq (h : t.Records most ids found) (id : String) :
    t.hasSeen id = ids.contains id := by
  rw [Bool.eq_iff_iff, h.seen_iff, List.contains_iff_mem]

theorem count (h : t.Records most ids found) (change : Summary → Summary) :
    (t.count change).Records most ids found :=
  ⟨h.most_eq, h.seen_iff, h.count_eq, h.examples_eq⟩

theorem see (h : t.Records most ids found) (id : String) :
    (t.see id).Records most (ids ++ [id]) found where
  most_eq := h.most_eq
  seen_iff other := by
    rw [hasSeen_see, h.seen_iff, List.mem_append, List.mem_singleton, or_comm]
  count_eq := h.count_eq
  examples_eq := h.examples_eq

/-- One violation is added to the front that is kept, if there is room. -/
theorem report (h : t.Records most ids found) (v : Violation) :
    (t.report v).Records most ids (found ++ [v]) where
  most_eq := h.most_eq
  seen_iff := h.seen_iff
  count_eq := by
    rw [List.length_append, List.length_singleton, ← h.count_eq]
    rfl
  examples_eq := by
    have hsize : t.examples.size = min most found.length := by
      rw [← Array.length_toList, h.examples_eq, List.length_take]
    rw [List.take_append, Tally.report, h.most_eq]
    by_cases hroom : found.length < most
    · have htake : [v].take (most - found.length) = [v] :=
        List.take_of_length_le (Nat.sub_pos_of_lt hroom)
      rw [if_pos (by omega), Array.toList_push, h.examples_eq, htake]
    · rw [if_neg (by omega), h.examples_eq, Nat.sub_eq_zero_of_le (Nat.le_of_not_lt hroom),
        List.take_zero, List.append_nil]

/-- Violations are recorded in the order in which they are reported. -/
theorem reportAll (h : t.Records most ids found) (violations : List Violation) :
    (t.reportAll violations).Records most ids (found ++ violations) := by
  induction violations generalizing t found with
  | nil => rwa [List.append_nil]
  | cons v rest ih =>
    rw [List.append_cons]
    exact ih (h.report v)

/-- Checking a main row records its violations and its id. -/
theorem checkMain (h : t.Records most ids found) (row : MainRow) (expected : Nat) :
    (t.checkMain row expected).Records most (ids ++ [row.id])
      (found ++ mainViolations row expected (ids.contains row.id)) := by
  rw [Tally.checkMain, h.hasSeen_eq]
  exact ((h.see row.id).count _).reportAll _

/-- Checking rows records their violations and their ids. -/
theorem checkRows (h : t.Records most ids found) (kind : RelatedKind) (parent sequence : Nat)
    (rows : List RelatedRow) :
    (t.checkRows kind parent sequence rows).Records most (ids ++ rows.map (·.id))
      (found ++ rowsViolations kind parent sequence ids rows) := by
  induction rows generalizing t ids found sequence with
  | nil => simpa [rowsViolations, Tally.checkRows] using h
  | cons row rest ih =>
    have hrow := (h.see row.id).reportAll
      (relatedViolations kind parent sequence row (ids.contains row.id))
    rw [Tally.checkRows, h.hasSeen_eq, rowsViolations, ← List.append_assoc, List.map_cons,
      List.append_cons]
    exact ih hrow (sequence + 1)

/-- Checking a batch records the violations of its size and of its rows. -/
theorem checkBatch (h : t.Records most ids found) (kind : RelatedKind) (main : MainRow)
    (parent : Nat) (rows : List RelatedRow) :
    (t.checkBatch kind main parent rows).Records most (ids ++ rows.map (·.id))
      (found ++ batchViolations kind main parent ids rows) := by
  rw [Tally.checkBatch, batchViolations, ← List.append_assoc]
  exact ((h.count _).reportAll _).checkRows kind parent 0 rows

theorem orphans (h : t.Records most ids found) (rows : List RelatedRow) :
    (rows.foldl Tally.orphan t).Records most ids (found ++ rows.map orphanViolation) := by
  induction rows generalizing t found with
  | nil => rwa [List.map_nil, List.append_nil]
  | cons row rest ih =>
    rw [List.map_cons, List.append_cons]
    exact ih ((h.count _).report (orphanViolation row))

/-- Checking a group records its violations and the ids of its rows. -/
theorem checkGroup (h : t.Records most ids found) (group : Group) :
    (t.checkGroup group).Records most (ids ++ groupIds group)
      (found ++ groupViolations t.summary.mainRows ids group) := by
  have hgroup := ((((h.count fun s => { s with mainRows := s.mainRows + 1 }).checkMain group.main
    t.summary.mainRows).checkBatch .child group.main (parentIndex group t.summary.mainRows)
    group.children).checkBatch .inline group.main (parentIndex group t.summary.mainRows)
    group.inlines).orphans group.orphans
  simp only [groupIds, groupViolations, List.append_assoc] at hgroup ⊢
  exact hgroup

/-- Checking groups records their violations one group after the other. -/
theorem checkGroups (h : t.Records most ids found) (groups : List Group) :
    (groups.foldl Tally.checkGroup t).Records most (ids ++ groups.flatMap groupIds)
      (found ++ groupsViolations t.summary.mainRows ids groups) := by
  induction groups generalizing t ids found with
  | nil => simpa [groupsViolations] using h
  | cons group groups ih =>
    have hrest := ih (h.checkGroup group)
    rw [summary_checkGroup] at hrest
    rw [List.foldl_cons, List.flatMap_cons, groupsViolations, ← List.append_assoc,
      ← List.append_assoc]
    exact hrest

end Records

/-- The tally of a dataset has reported its violations. -/
theorem records_of_groups (most : Nat) (groups : List Group) (left : List RelatedRow) :
    (left.foldl orphan (groups.foldl checkGroup { most })).Records most
      (groups.flatMap groupIds) (violationsOf groups left) :=
  ((records_nil most).checkGroups groups).orphans left

/-- Some tally has seen just these ids, and has nothing to report. -/
theorem exists_records (ids : List String) : ∃ t : Tally, t.Records 0 ids [] := by
  induction ids using List.reverseRecOn with
  | nil => exact ⟨_, records_nil 0⟩
  | append_singleton ids id ih =>
    rcases ih with ⟨t, ht⟩
    exact ⟨_, ht.see id⟩

end Tally

/-- An evaluation reports the violations of its dataset: it counts them and keeps the first ones. -/
theorem run_reports {options : Options} {dir : String} {session : Session} {result : Result} :
    (∃ session', run options dir session = (.ok result, session')) ↔
      ∃ reader tree groups left,
        Reader.openDir dir options.headers session.tree = (.ok reader, tree) ∧
        reader.ReadsAll groups left ∧
        result =
          { datasetDir := dir
            summary := (left.foldl Tally.orphan
              (groups.foldl Tally.checkGroup { most := options.maxExamples })).summary
            violationCount := (violationsOf groups left).length
            violations := (violationsOf groups left).take options.maxExamples } ∧
        (options.strict = true → violationsOf groups left = []) := by
  simp only [run_ok_iff, tallyReader_ok_iff]
  constructor
  · rintro ⟨reader, tree, _, hopen, ⟨groups, left, hall, rfl⟩, rfl, hstrict⟩
    have h := Tally.records_of_groups options.maxExamples groups left
    refine ⟨reader, tree, groups, left, hopen, hall, ?_, fun hs => ?_⟩
    · rw [Tally.toResult, h.count_eq, h.examples_eq]
    · rw [← List.length_eq_zero_iff, ← h.count_eq]
      exact hstrict hs
  · rintro ⟨reader, tree, groups, left, hopen, hall, rfl, hstrict⟩
    have h := Tally.records_of_groups options.maxExamples groups left
    refine ⟨reader, tree, _, hopen, ⟨groups, left, hall, rfl⟩, ?_, fun hs => ?_⟩
    · rw [Tally.toResult, h.count_eq, h.examples_eq]
    · rw [h.count_eq, hstrict hs, List.length_nil]

/-! ## Nothing to report -/

/-- A batch has nothing to report exactly if it is sound and its ids are new. -/
theorem batchViolations_eq_nil_iff {kind : RelatedKind} {main : MainRow} {parent : Nat}
    {ids : List String} {rows : List RelatedRow} :
    batchViolations kind main parent ids rows = [] ↔
      SoundBatch kind parent rows ∧ (rows.map (·.id)).Nodup ∧
        ∀ id ∈ rows.map (·.id), id ∉ ids := by
  -- A tally that has seen the ids reports just what the batch has to report.
  rcases Tally.exists_records ids with ⟨t, ht⟩
  have hcount := (ht.checkBatch kind main parent rows).count_eq
  rw [List.nil_append] at hcount
  rw [← List.length_eq_zero_iff, ← hcount, Tally.checkBatch_clean_iff, Tally.AreNew, ht.count_eq]
  simp only [ht.hasSeen_eq, ← Bool.not_eq_true, List.contains_iff_mem, List.length_nil, true_and]

/-- There is nothing to report exactly if each group passes, no id repeats and no row is left. -/
theorem violationsOf_eq_nil_iff {groups : List Group} {left : List RelatedRow} :
    violationsOf groups left = [] ↔
      (∀ i (h : i < groups.length), Tally.Passes groups[i] i) ∧
        (groups.flatMap Tally.groupIds).Nodup ∧ left = [] := by
  have hcount := (Tally.records_of_groups 0 groups left).count_eq
  rw [← List.length_eq_zero_iff, ← hcount, Tally.violationCount_orphans, Nat.add_eq_zero_iff,
    List.length_eq_zero_iff, Tally.checkGroups_clean_iff, Tally.AreNew]
  simp only [(Tally.records_nil 0).hasSeen_eq, List.contains_nil, implies_true,
    and_true, true_and, Nat.zero_add, and_assoc]

end LinkedDocs.Evaluation
