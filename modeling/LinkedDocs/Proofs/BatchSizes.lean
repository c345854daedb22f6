import LinkedDocs.Proofs.Generated
import LinkedDocs.Proofs.Malformed
import LinkedDocs.Proofs.RepeatedIds

/-!
# The sizes of batches, and what a 32-bit counter shows of them

The rule for the size of a batch looks at a 32-bit counter. For every batch of fewer
than 2^32 rows it reports just the sizes that are out of bounds. A longer batch wraps
the counter around; then the ids, which count places in the same way, repeat, so that
a dataset without violations has no such batch. There is one exception: with exactly
2^32 rows the counter shows 0 and no id repeats yet. An inline batch may have no rows,
so a main row with 2^32 inline rows passes.

* `Rows.ReportsSize`: the size of a batch of a main row is reported.
* `Rows.reportsSize_iff`: when it is.
* `SoundBatch.length_cases`: the lengths of batches without violations.
* `batch_sizes_checked_below_wrap`: the rule, in all evaluations.
* `wrapped_inline_batch_passes`: the exception.
-/

namespace LinkedDocs.Evaluation

open Dataset Generation

/-! ## Reports of sizes -/

/-- The code of the rule for sizes tells the kind of the batch. -/
theorem code_batchSize_injective : Function.Injective RelatedRule.batchSize.code := by
  intro kind kind' h
  cases kind <;> cases kind' <;> first | rfl | exact absurd h (by decide)

/-- No rule for main rows is about the size of a batch. -/
theorem mainCode_ne_batchSize (rule : MainRule) (kind : RelatedKind) :
    rule.code ≠ RelatedRule.batchSize.code kind := by
  cases rule <;> cases kind <;> decide

/-- A rule has the code of the rule for sizes only if it is that rule. -/
theorem relatedCode_ne_batchSize {rule : RelatedRule} (h : rule ≠ .batchSize)
    (kind kind' : RelatedKind) : rule.code kind ≠ RelatedRule.batchSize.code kind' := by
  cases rule <;> first | exact absurd rfl h | (cases kind <;> cases kind' <;> decide)

/-- What is wrong with a related row is not the size of its batch. -/
theorem rule_ne_batchSize {kind : RelatedKind} {parent sequence : Nat} {row : RelatedRow}
    {repeated : Bool} {fault : RelatedRule × String}
    (h : fault ∈ relatedFaults kind parent sequence row repeated) : fault.1 ≠ .batchSize := by
  unfold relatedFaults at h
  simp only [List.mem_append, List.mem_map] at h
  rcases h with ((⟨_, _, rfl⟩ | ⟨_, _, rfl⟩) | ⟨_, _, rfl⟩) | ⟨_, _, rfl⟩ <;> exact nofun

section

variable {kind : RelatedKind} {main : MainRow} {v : Violation}

/-- A size is reported by its own rule, at the main row of the batch. -/
theorem code_of_mem_sizeViolations {count : Nat} (h : v ∈ sizeViolations kind main count) :
    v.code = RelatedRule.batchSize.code kind ∧ v.rowIndex = some main.rowIndex := by
  unfold sizeViolations at h
  dsimp only at h
  split at h
  · cases h
  · rw [List.mem_singleton.1 h]
    exact ⟨rfl, rfl⟩

/-- A size is reported exactly if the counter shows one that is out of bounds. -/
theorem exists_mem_sizeViolations_iff {count : Nat} :
    (∃ v, v ∈ sizeViolations kind main count) ↔ kind.bounds.holds (word32 count) = false := by
  rw [← Bool.not_eq_true, ← @sizeViolations_eq_nil_iff kind main, List.eq_nil_iff_forall_not_mem,
    not_forall_not]

/-- The violations of sizes are those of the batches of the groups. -/
theorem mem_violationsOf_iff (hcode : v.code = RelatedRule.batchSize.code kind)
    {groups : List Group} {left : List RelatedRow} :
    v ∈ violationsOf groups left ↔
      ∃ group ∈ groups, v ∈ sizeViolations kind group.main (group.related kind).length := by
  rw [violationsOf_eq_found]
  constructor
  · intro hv
    obtain ⟨check, hcheck, repeated, hfound⟩ := exists_check_of_mem_found hv
    cases check with
    | main row expected =>
      obtain ⟨⟨rule, message⟩, -, rfl⟩ := List.mem_map.1 hfound
      exact absurd hcode (mainCode_ne_batchSize rule kind)
    | size kind' owner count =>
      have hkind := (code_of_mem_sizeViolations hfound).1.symm.trans hcode
      obtain rfl := code_batchSize_injective hkind
      obtain ⟨group, hgroup, rfl, rfl⟩ := size_mem_checksOf_iff.1 hcheck
      exact ⟨group, hgroup, hfound⟩
    | related kind' parent sequence row =>
      obtain ⟨⟨rule, message⟩, hfault, rfl⟩ := List.mem_map.1 hfound
      exact absurd hcode (relatedCode_ne_batchSize (rule_ne_batchSize hfault) kind' kind)
    | orphan row =>
      obtain rfl := List.mem_singleton.1 hfound
      exact absurd hcode (@relatedCode_ne_batchSize .orphan nofun row.kind kind)
  · rintro ⟨group, hgroup, hsize⟩
    exact mem_found (size_mem_checksOf_iff.2 ⟨group, hgroup, rfl, rfl⟩) fun _ => hsize

end

/-! ## Batches without violations -/

/--
A batch whose size, ids and places pass is within its bounds, or it has exactly as many
rows as a 32-bit counter has values and could have none as well.
-/
theorem SoundBatch.length_cases {kind : RelatedKind} {parent : Nat} {rows : List RelatedRow}
    (h : SoundBatch kind parent rows) (hids : (rows.map (·.id)).Nodup) :
    (kind.bounds.least ≤ rows.length ∧ rows.length ≤ kind.bounds.most) ∨
      (kind.bounds.least = 0 ∧ rows.length = UInt32.size) := by
  have hholds := h.size
  rw [BatchBounds.holds, Bool.and_eq_true, decide_eq_true_eq, decide_eq_true_eq] at hholds
  rcases Nat.lt_or_eq_of_le (h.length_le hids) with hlt | heq
  · rw [word32_eq hlt] at hholds
    exact .inl hholds
  · have hzero : word32 rows.length = 0 := by
      rw [heq]
      exact Nat.mod_self _
    rw [hzero] at hholds
    exact .inr ⟨Nat.le_zero.1 hholds.1, heq⟩

/-! ## A main row with batches of given sizes -/

/-- A document that passes at a place of a batch. -/
def placedRecord (kind : RelatedKind) (parent sequence : Nat) : RelatedRecord where
  id := DocId.related kind parent sequence
  parentId := DocId.main parent
  value := "Lorem."
  ignoreMe := "doc."

/-- Documents at the first `n` places of a batch. -/
def placedRecords (kind : RelatedKind) (parent n : Nat) : List RelatedRecord :=
  (List.range n).map (placedRecord kind parent)

/-- A main document that passes as the first one. -/
def soleDocument : MainRecord where
  id := DocId.main 0
  date := "2020-02-29 23:59:59"
  deleted := false
  nested := { key := "AB1-KEY", value := "12.50", name := "x" }
  nonSearchable := "Lorem ipsum."
  text := "Lorem."
  textArray := "\x7b'a','b','c'\x7d"
  ignoreMe := "Alert dbonly."

/-- Batches of so many children and inline rows. -/
def sizesOf (children inlines : Nat) : RelatedKind → Nat
  | .child => children
  | .inline => inlines

/-- The files of one main document with batches of these sizes. -/
def soleFiles (sizes : RelatedKind → Nat) : Files :=
  (Contents.ofRecords false [soleDocument] fun kind =>
    placedRecords kind 0 (sizes kind)).files

/-- The rows in these files. -/
def soleRows (sizes : RelatedKind → Nat) : Rows where
  main := rowsFrom MainRow.ofRecord 0 [soleDocument]
  related kind := rowsFrom (RelatedRow.ofRecord kind) 0 (placedRecords kind 0 (sizes kind))

/-- The one group of these rows. -/
def soleGroup (sizes : RelatedKind → Nat) : Group where
  main := .ofRecord 0 soleDocument
  children := (soleRows sizes).related .child
  inlines := (soleRows sizes).related .inline
  orphans := []

section

variable {sizes : RelatedKind → Nat}

theorem related_soleGroup (kind : RelatedKind) :
    (soleGroup sizes).related kind = (soleRows sizes).related kind := by
  cases kind <;> rfl

/-- The batches have the sizes that were asked for. -/
theorem length_related_soleGroup (kind : RelatedKind) :
    ((soleGroup sizes).related kind).length = sizes kind := by
  rw [related_soleGroup, soleRows, length_rowsFrom, placedRecords, List.length_map,
    List.length_range]

/-- The documents of a batch are good at their places, however many they are. -/
theorem goodFrom_placedRecords (kind : RelatedKind) (parent n : Nat) :
    GoodFrom (GoodRelated kind parent) 0 (placedRecords kind parent n) := by
  refine goodFrom_zero_iff.2 fun j hj => ?_
  have hrecord : (placedRecords kind parent n)[j] = placedRecord kind parent j :=
    (List.getElem_map _).trans (congrArg _ (List.getElem_range _))
  rw [hrecord]
  refine ⟨rfl, rfl, fun rowIndex => ⟨?_, ?_, ?_⟩⟩
  · show "Lorem.".length ≤ RelatedRecord.valueLimit
    decide
  · show "doc.".length ≤ RelatedRecord.ignoreMeLimit
    decide
  · show inVocabulary "doc." Vocabulary.relatedMarkers.toList = true
    decide

/-- Each related row stands at its place and is sound. -/
theorem related_soleGroup_good (kind : RelatedKind) :
    GoodFrom (fun j (row : RelatedRow) => row.id = DocId.related kind 0 j ∧
      row.parentId = DocId.main 0 ∧ SoundRelated row) 0 ((soleGroup sizes).related kind) := by
  rw [related_soleGroup]
  exact related_rows_good (goodFrom_placedRecords kind 0 (sizes kind)) 0

/-- The id of a row is that of its place, which no counter cuts. -/
theorem id_related_soleGroup (kind : RelatedKind) (j : Nat)
    (hj : j < ((soleGroup sizes).related kind).length) :
    ((soleGroup sizes).related kind)[j].id = DocId.related kind 0 j :=
  (goodFrom_zero_iff.1 (related_soleGroup_good kind) j hj).1

theorem inPlace_soleGroup : InPlace (soleGroup sizes) 0 where
  id_eq := rfl
  parent_eq kind := (related_soleGroup_good kind).forall_mem fun _ _ hrow => hrow.2.1
  orphans := rfl

/-! ### Reading them -/

/-- The rows are what the reader finds in the files, whatever the sizes. -/
theorem soleRows_readFrom : (soleRows sizes).ReadFrom "data" false (soleFiles sizes).dataTree := by
  have hmark : Unmarked false [soleDocument] fun kind => placedRecords kind 0 (sizes kind) := by
    constructor
    · intro _ r hr
      rw [List.mem_singleton.1 (List.mem_of_mem_head? hr)]
      exact unmarked_main 0
    · intro _ kind r hr
      obtain ⟨j, -, rfl⟩ := List.mem_map.1 (List.mem_of_mem_head? hr)
      exact unmarked_related kind 0 j
  have hopen := (@Contents.storedIn_dataTree (Contents.ofRecords false [soleDocument]
    fun kind => placedRecords kind 0 (sizes kind))).openDir false
  exact ⟨_, _, hopen, holds_ofRecords hmark "data"⟩

/-- The rows are read as one group, and none is left. -/
theorem groups_soleRows :
    (soleRows sizes).groups = [soleGroup sizes] ∧ (soleRows sizes).left = [] := by
  obtain ⟨r, tree, -, hr⟩ := @soleRows_readFrom sizes
  have hall : r.ReadsAll ([soleGroup sizes] ++ []) [] := by
    refine @Reader.ReadsAll.of_inPlace [soleGroup sizes] [] 0 r [] [] [] [] ?_ ?_ ?_ ?_ ?_
    · simp only [List.flatMap_singleton, List.append_nil]
      exact hr
    · intro i hi
      obtain rfl := Nat.lt_one_iff.1 hi
      exact inPlace_soleGroup
    · show 0 + 1 ≤ Text.word64
      decide
    · exact List.forall_mem_nil _
    · exact fun r' hr' => Reader.readsAll_bare hr'
  obtain ⟨hgroups, hleft⟩ := hall.eq_groupsOf hr
  exact ⟨hgroups.symm, hleft.symm⟩

/-! ### Checking them -/

/-- The main row has nothing wrong with its own columns. -/
theorem soundMain_soleGroup : SoundMain (soleGroup sizes).main := by
  show SoundMain (MainRow.ofRecord 0 soleDocument)
  decide +kernel

/-- The rows pass if the counter shows sizes within bounds, and shows each place as it is. -/
theorem violations_soleRows
    (hsizes : ∀ kind, kind.bounds.holds (word32 (sizes kind)) = true ∧ sizes kind ≤ UInt32.size) :
    (soleRows sizes).violations = [] := by
  have hbatch : ∀ kind, SoundBatch kind (Tally.parentIndex (soleGroup sizes) 0)
      ((soleGroup sizes).related kind) := by
    intro kind
    rw [Tally.parentIndex_eq inPlace_soleGroup.id_eq]
    constructor
    · rw [length_related_soleGroup]
      exact (hsizes kind).1
    · intro j hj
      rw [id_related_soleGroup kind j hj]
      -- There are places beyond those that the counter shows only in longer batches.
      rw [length_related_soleGroup] at hj
      rw [word32_eq (Nat.lt_of_lt_of_le hj (hsizes kind).2)]
    · exact (related_soleGroup_good kind).forall_mem fun _ _ hrow => hrow.2.2
  have hpasses : Tally.Passes (soleGroup sizes) 0 :=
    ⟨inPlace_soleGroup.id_eq, soundMain_soleGroup, hbatch .child, hbatch .inline, rfl⟩
  have hnodup := nodup_groupIds_of_places inPlace_soleGroup.id_eq (@id_related_soleGroup sizes)
  rw [Rows.violations, groups_soleRows.1, groups_soleRows.2, violationsOf_eq_nil_iff]
  refine ⟨?_, ?_, rfl⟩
  · intro i hi
    obtain rfl := Nat.lt_one_iff.1 hi
    exact hpasses
  · rw [List.flatMap_singleton]
    exact hnodup

end

end LinkedDocs.Evaluation

namespace LinkedDocs.Dataset.Rows

open Evaluation

variable {d : Rows} {dir : String} {headers : Bool} {t : FileTree} {kind : RelatedKind} {i : Nat}

/-- The size of a batch of the main row at a place is among the violations. -/
def ReportsSize (d : Rows) (kind : RelatedKind) (i : Nat) : Prop :=
  ∃ v ∈ d.violations, v.code = RelatedRule.batchSize.code kind ∧ v.rowIndex = some i

/-- The main row of a group is numbered by the place of the group. -/
theorem ReadFrom.rowIndex_main (h : d.ReadFrom dir headers t) (hi : i < d.groups.length) :
    d.groups[i].main.rowIndex = i := by
  have hmains : d.groups.map Group.main = d.main := map_main_groupsOf _ _ _
  have hlength : i < d.main.length := by
    rw [← hmains, List.length_map]
    exact hi
  have hmain : d.groups[i].main = d.main[i] := by
    rw [← List.getElem_map Group.main (h := by rw [List.length_map]; exact hi)]
    exact List.getElem_of_eq hmains _
  rw [hmain]
  exact h.placed.1 i hlength

/-- The size of a batch is reported exactly if the counter shows one that is out of bounds. -/
theorem reportsSize_iff (h : d.ReadFrom dir headers t) (hi : i < d.groups.length) :
    d.ReportsSize kind i ↔
      kind.bounds.holds (word32 (d.groups[i].related kind).length) = false := by
  rw [← @exists_mem_sizeViolations_iff kind d.groups[i].main]
  constructor
  · rintro ⟨v, hv, hcode, hindex⟩
    obtain ⟨group, hgroup, hsize⟩ := (mem_violationsOf_iff hcode).1 hv
    obtain ⟨j, hj, rfl⟩ := List.getElem_of_mem hgroup
    -- The row number of the violation tells which group it is of.
    have hrow := (code_of_mem_sizeViolations hsize).2.symm.trans hindex
    rw [h.rowIndex_main hj, Option.some.injEq] at hrow
    subst hrow
    exact ⟨v, hsize⟩
  · rintro ⟨v, hsize⟩
    obtain ⟨hcode, hindex⟩ := code_of_mem_sizeViolations hsize
    refine ⟨v, (mem_violationsOf_iff hcode).2 ⟨_, List.getElem_mem hi, hsize⟩, hcode, ?_⟩
    rw [hindex, h.rowIndex_main hi]

/-- Rows without violations pass, strict or not. -/
theorem exists_clean_run {options : Options} {session : Session}
    (h : d.ReadFrom dir options.headers session.tree) (hclean : d.violations = []) :
    ∃ result after, run options dir session = (.ok result, after) ∧ result.violationCount = 0 := by
  obtain ⟨after, hrun⟩ := (run_ok_iff h).2 ⟨rfl, fun _ => hclean⟩
  exact ⟨_, after, hrun, List.length_eq_zero_iff.2 hclean⟩

/-- In rows without violations each batch is within its bounds, or at the wrap of the counter. -/
theorem related_length_cases (h : d.ReadFrom dir headers t) (hclean : d.violations = [])
    (hi : i < d.groups.length) (kind : RelatedKind) :
    (kind.bounds.least ≤ (d.groups[i].related kind).length ∧
        (d.groups[i].related kind).length ≤ kind.bounds.most) ∨
      (kind.bounds.least = 0 ∧ (d.groups[i].related kind).length = UInt32.size) := by
  obtain ⟨r, tree, -, hr⟩ := h
  obtain ⟨hgroups, -⟩ := clean_of_violationsOf (readsAll_of_holds hr) hr hclean
  exact ((hgroups.passes i hi).batch kind).length_cases
    (hgroups.nodup_related (List.getElem_mem hi) kind)

end LinkedDocs.Dataset.Rows

namespace LinkedDocs.Evaluation

open Dataset Generation

/-! ## The rule for sizes -/

/--
The rule for sizes, in every evaluation of rows that can be read. It reports the size of
a batch of a main row exactly if the 32-bit counter shows one out of bounds; of batches
of fewer than 2^32 rows, exactly if their size is out of bounds. And where nothing is
reported at all, each main row has 5 to 25 children, and at most 3 inline rows or
exactly 2^32 of them.
-/
theorem batch_sizes_checked_below_wrap {d : Rows} {dir : String} {options : Options}
    {session : Session} (hread : d.ReadFrom dir options.headers session.tree) :
    (∃ r tree, Reader.openDir dir options.headers session.tree = (.ok r, tree) ∧
      r.ReadsAll d.groups d.left) ∧
    (∀ i (hi : i < d.groups.length) kind,
      (d.ReportsSize kind i ↔ ¬ (kind.bounds.least ≤ word32 (d.groups[i].related kind).length ∧
        word32 (d.groups[i].related kind).length ≤ kind.bounds.most)) ∧
      ((d.groups[i].related kind).length < 4294967296 →
        (d.ReportsSize kind i ↔ ¬ (kind.bounds.least ≤ (d.groups[i].related kind).length ∧
          (d.groups[i].related kind).length ≤ kind.bounds.most)))) ∧
    ∀ result after, run options dir session = (.ok result, after) →
      result.violationCount = d.violations.length ∧
      result.violations = d.violations.take options.maxExamples ∧
      (result.violationCount = 0 → ∀ i (hi : i < d.groups.length),
        (5 ≤ d.groups[i].children.length ∧ d.groups[i].children.length ≤ 25) ∧
          (d.groups[i].inlines.length ≤ 3 ∨ d.groups[i].inlines.length = 4294967296)) := by
  have hcounter : ∀ i (hi : i < d.groups.length) kind, d.ReportsSize kind i ↔
      ¬ (kind.bounds.least ≤ word32 (d.groups[i].related kind).length ∧
        word32 (d.groups[i].related kind).length ≤ kind.bounds.most) := by
    intro i hi kind
    rw [Rows.reportsSize_iff hread hi, BatchBounds.holds, ← Bool.not_eq_true, Bool.and_eq_true,
      decide_eq_true_eq, decide_eq_true_eq]
  refine ⟨hread.readsAll, fun i hi kind => ⟨hcounter i hi kind, fun hfew => ?_⟩, ?_⟩
  · rw [hcounter i hi kind, word32_eq hfew]
  · intro result after hrun
    obtain ⟨rfl, -⟩ := (Rows.run_ok_iff hread).1 ⟨after, hrun⟩
    refine ⟨rfl, rfl, fun hnone i hi => ?_⟩
    have hlengths := Rows.related_length_cases hread (List.length_eq_zero_iff.1 hnone) hi
    constructor
    · -- A main row must have children, so the counter must not show none.
      rcases hlengths .child with hbounds | ⟨hzero, -⟩
      · exact hbounds
      · cases hzero
    · rcases hlengths .inline with hbounds | ⟨-, hwrap⟩
      · exact .inl hbounds.2
      · exact .inr hwrap

/-- With four children and three inline rows, only the number of children is reported. -/
theorem four_children_reported :
    ∃ d : Rows, d.ReadFrom "data" false (soleFiles (sizesOf 4 3)).dataTree ∧
      d.groups.length = 1 ∧ d.ReportsSize .child 0 ∧ ¬ d.ReportsSize .inline 0 ∧
      ∃ result after, run { strict := false } "data"
        { tree := (soleFiles (sizesOf 4 3)).dataTree } = (.ok result, after) ∧
          result.violationCount ≠ 0 := by
  have hread := @soleRows_readFrom (sizesOf 4 3)
  -- The bytes of the files are not evaluated: what is read from them is known.
  generalize (soleFiles (sizesOf 4 3)).dataTree = tree at hread ⊢
  obtain ⟨-, hreports, hresults⟩ := @batch_sizes_checked_below_wrap (soleRows (sizesOf 4 3))
    "data" { strict := false } { tree } hread
  obtain ⟨result, after, hrun⟩ :=
    (@Rows.exists_result_iff "data" { tree } { strict := false } rfl).2 ⟨_, hread⟩
  have hone : (soleRows (sizesOf 4 3)).groups.length = 1 := by
    rw [groups_soleRows.1]
    rfl
  have hlengths : ∀ kind, ((soleRows (sizesOf 4 3)).groups[0].related kind).length =
      sizesOf 4 3 kind := by
    intro kind
    simp only [groups_soleRows.1]
    exact length_related_soleGroup kind
  have hchildren : (soleRows (sizesOf 4 3)).ReportsSize .child 0 := by
    rw [(hreports 0 (by omega) .child).1, hlengths]
    decide
  have hinlines : ¬ (soleRows (sizesOf 4 3)).ReportsSize .inline 0 := by
    rw [(hreports 0 (by omega) .inline).1, hlengths]
    decide
  refine ⟨_, hread, hone, hchildren, hinlines, result, after, hrun, ?_⟩
  obtain ⟨v, hv, -⟩ := hchildren
  rw [(hresults result after hrun).1]
  exact Nat.ne_of_gt (List.length_pos_of_mem hv)

/-- Batches in their places pass if the counter does not tell their sizes from allowed ones. -/
theorem soleRows_pass {sizes : RelatedKind → Nat}
    (hsizes : ∀ kind, kind.bounds.holds (word32 (sizes kind)) = true ∧ sizes kind ≤ UInt32.size) :
    ∃ (d : Rows) (group : Group), d.ReadFrom "data" false (soleFiles sizes).dataTree ∧
      d.groups = [group] ∧ (∀ kind, (group.related kind).length = sizes kind) ∧
      (∀ kind j (hj : j < (group.related kind).length),
        (group.related kind)[j].id = DocId.related kind 0 j) ∧
      (∀ kind, ¬ d.ReportsSize kind 0) ∧
      ∃ result after, run { strict := true } "data" { tree := (soleFiles sizes).dataTree } =
        (.ok result, after) ∧ result.violationCount = 0 := by
  have hclean := violations_soleRows hsizes
  have hquiet : ∀ kind, ¬ (soleRows sizes).ReportsSize kind 0 := by
    rintro kind ⟨v, hv, -⟩
    rw [hclean] at hv
    cases hv
  exact ⟨soleRows sizes, soleGroup sizes, soleRows_readFrom, groups_soleRows.1,
    length_related_soleGroup, id_related_soleGroup, hquiet,
    @Rows.exists_clean_run _ "data" { strict := true } { tree := (soleFiles sizes).dataTree }
      soleRows_readFrom hclean⟩

/--
A main row with 2^32 inline rows, each with the id of its place, passes a strict
evaluation: their number is out of bounds, and neither it nor anything else is reported.
-/
theorem wrapped_inline_batch_passes :
    ∃ (d : Rows) (group : Group),
      d.ReadFrom "data" false (soleFiles (sizesOf 5 4294967296)).dataTree ∧
      d.groups = [group] ∧ group.children.length = 5 ∧ group.inlines.length = 4294967296 ∧
      (∀ j (h : j < group.inlines.length), group.inlines[j].id = DocId.related .inline 0 j) ∧
      ¬ d.ReportsSize .inline 0 ∧
      ∃ result after, run { strict := true } "data"
        { tree := (soleFiles (sizesOf 5 4294967296)).dataTree } = (.ok result, after) ∧
          result.violationCount = 0 := by
  have hsizes : ∀ kind, kind.bounds.holds (word32 (sizesOf 5 4294967296 kind)) = true ∧
      sizesOf 5 4294967296 kind ≤ UInt32.size := by
    intro kind
    cases kind <;> decide
  -- The lemma is about any sizes, so no list of 2^32 rows is evaluated here.
  obtain ⟨d, group, hread, hgroups, hlength, hid, hquiet, hrun⟩ := soleRows_pass hsizes
  exact ⟨d, group, hread, hgroups, hlength .child, hlength .inline, hid .inline,
    hquiet .inline, hrun⟩

end LinkedDocs.Evaluation
