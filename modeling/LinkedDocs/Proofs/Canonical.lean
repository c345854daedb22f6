import LinkedDocs.Proofs.Accounting
import LinkedDocs.Proofs.Clean
import Mathlib.Data.List.Nodup
import Mathlib.Data.List.Perm.Basic

/-!
# Datasets that pass

A dataset is canonical if its main rows are numbered in order and each related
file is the batches of the main rows, one after the other. An evaluation finds no
violation exactly if the dataset is canonical.

* `Canonical.tally_clean`: a canonical dataset passes, and what is counted of it.
* `canonical_of_clean`: a dataset that passes is canonical, and its ids are distinct.
* `strict_ok_iff_canonical`: the verdict of a strict evaluation.
-/

namespace LinkedDocs.Evaluation

open Dataset Text

/-! ## The canonical form -/

/-- The rows are a batch of main document `index`. -/
structure IsBatch (kind : RelatedKind) (index : Nat) (rows : List RelatedRow) : Prop where
  size : kind.bounds.least ≤ rows.length ∧ rows.length ≤ kind.bounds.most
  id_eq : ∀ j (h : j < rows.length), rows[j].id = DocId.related kind index j
  parent_eq : ∀ row ∈ rows, row.parentId = DocId.main index
  sound : ∀ row ∈ rows, SoundRelated row

instance (kind : RelatedKind) (index : Nat) (rows : List RelatedRow) :
    Decidable (IsBatch kind index rows) :=
  decidable_of_iff
    ((kind.bounds.least ≤ rows.length ∧ rows.length ≤ kind.bounds.most) ∧
      (∀ j (h : j < rows.length), rows[j].id = DocId.related kind index j) ∧
      (∀ row ∈ rows, row.parentId = DocId.main index) ∧ ∀ row ∈ rows, SoundRelated row)
    ⟨fun ⟨a, b, c, d⟩ => ⟨a, b, c, d⟩, fun ⟨a, b, c, d⟩ => ⟨a, b, c, d⟩⟩

/-- These are the batches of main documents 0, 1, and so on. -/
def AreBatches (kind : RelatedKind) (batches : List (List RelatedRow)) : Prop :=
  ∀ i (h : i < batches.length), IsBatch kind i batches[i]

instance (kind : RelatedKind) (batches : List (List RelatedRow)) :
    Decidable (AreBatches kind batches) :=
  inferInstanceAs (Decidable (∀ i (h : i < batches.length), IsBatch kind i batches[i]))

/-- The main rows have the ids 0, 1, and so on, and are sound. -/
def MainsInOrder (mains : List MainRow) : Prop :=
  ∀ i (h : i < mains.length), mains[i].id = DocId.main i ∧ SoundMain mains[i]

instance (mains : List MainRow) : Decidable (MainsInOrder mains) :=
  inferInstanceAs (Decidable (∀ i (h : i < mains.length),
    mains[i].id = DocId.main i ∧ SoundMain mains[i]))

/-- Related rows are the batches of `n` main documents, one after the other. -/
def InBatches (kind : RelatedKind) (n : Nat) (rows : List RelatedRow) : Prop :=
  ∃ batches, batches.length = n ∧ AreBatches kind batches ∧ rows = batches.flatten

/-- Main rows in order, and the batches of each kind in the same order. -/
structure Canonical (mains : List MainRow) (children inlines : List RelatedRow) : Prop where
  inOrder : MainsInOrder mains
  childBatches : InBatches .child mains.length children
  inlineBatches : InBatches .inline mains.length inlines

/-! ## Batches in order -/

/-- If all lists but one are empty, that one is all there is. -/
theorem flatten_eq_getElem {α : Type} {lists : List (List α)} {i : Nat} (hi : i < lists.length)
    (h : ∀ j (hj : j < lists.length), j ≠ i → lists[j] = []) : lists.flatten = lists[i] := by
  induction lists generalizing i with
  | nil => exact absurd hi (Nat.not_lt_zero _)
  | cons first lists ih =>
    cases i with
    | zero =>
      have hnil : lists.flatten = [] := by
        refine List.flatten_eq_nil_iff.2 fun list hlist => ?_
        rcases List.getElem_of_mem hlist with ⟨j, hj, rfl⟩
        exact h (j + 1) (Nat.succ_lt_succ hj) (Nat.succ_ne_zero j)
      rw [List.flatten_cons, hnil, List.append_nil, List.getElem_cons_zero]
    | succ i =>
      have hfirst : first = [] := h 0 (Nat.zero_lt_succ _) (Nat.succ_ne_zero i).symm
      rw [List.flatten_cons, hfirst, List.nil_append, List.getElem_cons_succ]
      exact ih _ fun j hj hne => h (j + 1) (Nat.succ_lt_succ hj) (by omega)

/-- Each row of the batches points at the document of its batch. -/
theorem AreBatches.exists_parent {kind : RelatedKind} {batches : List (List RelatedRow)}
    (h : AreBatches kind batches) {row : RelatedRow} (hrow : row ∈ batches.flatten) :
    ∃ i, ∃ hi : i < batches.length, row ∈ batches[i] ∧ row.parentId = DocId.main i := by
  rcases List.mem_flatten.1 hrow with ⟨batch, hbatch, hrow⟩
  rcases List.getElem_of_mem hbatch with ⟨i, hi, rfl⟩
  exact ⟨i, hi, hrow, (h i hi).parent_eq row hrow⟩

/-- The parents of batches in order do not descend. -/
theorem AreBatches.parentsOrdered {kind : RelatedKind} {batches : List (List RelatedRow)}
    (h : AreBatches kind batches) (hn : batches.length ≤ word64) :
    ParentsOrdered batches.flatten := by
  have hindex : ∀ i (hi : i < batches.length), ∀ row ∈ batches[i],
      row.parentIndex? = some i := by
    intro i hi row hrow
    rw [RelatedRow.parentIndex?, (h i hi).parent_eq row hrow, DocId.mainIndex?_main (by omega)]
  constructor
  · intro row hrow
    rcases h.exists_parent hrow with ⟨i, hi, -, hparent⟩
    exact .inr ⟨i, by omega, hparent⟩
  · -- inside a batch the indices are the same, from a batch to a later one they ascend
    rw [List.filterMap_flatten, List.pairwise_flatten]
    constructor
    · intro indices hindices
      rcases List.mem_map.1 hindices with ⟨batch, hbatch, rfl⟩
      rcases List.getElem_of_mem hbatch with ⟨i, hi, rfl⟩
      have heq : ∀ m ∈ batches[i].filterMap RelatedRow.parentIndex?, m = i := by
        intro m hm
        rcases List.mem_filterMap.1 hm with ⟨row, hrow, hsome⟩
        rw [hindex i hi row hrow] at hsome
        exact (Option.some.inj hsome).symm
      exact List.pairwise_of_forall_mem_list fun a ha b hb =>
        Nat.le_of_eq ((heq a ha).trans (heq b hb).symm)
    · rw [List.pairwise_map, List.pairwise_iff_getElem]
      intro i j hi hj hlt a ha b hb
      rcases List.mem_filterMap.1 ha with ⟨row, hrow, hsome⟩
      rcases List.mem_filterMap.1 hb with ⟨row', hrow', hsome'⟩
      rw [hindex i hi row hrow] at hsome
      rw [hindex j hj row' hrow'] at hsome'
      obtain rfl := Option.some.inj hsome
      obtain rfl := Option.some.inj hsome'
      exact Nat.le_of_lt hlt

/-- The rows that point at a main row of index `i` are batch `i`. -/
theorem AreBatches.pointingAt_eq {kind : RelatedKind} {batches : List (List RelatedRow)}
    (h : AreBatches kind batches) {main : MainRow} {i : Nat} (hi : i < batches.length)
    (hid : main.id = DocId.main i) : pointingAt main batches.flatten = batches[i] := by
  -- Of each batch all rows point at the main row, or none.
  have hbatch : pointingAt main batches[i] = batches[i] :=
    List.filter_eq_self.2 fun row hrow => by simp [(h i hi).parent_eq row hrow, hid]
  have hother : ∀ j (hj : j < batches.length), j ≠ i → pointingAt main batches[j] = [] := by
    intro j hj hne
    refine List.filter_eq_nil_iff.2 fun row hrow => ?_
    rw [(h j hj).parent_eq row hrow, hid, decide_eq_true_eq]
    exact fun heq => hne (DocId.main_injective heq)
  have hlength : i < (batches.map (pointingAt main)).length := by rwa [List.length_map]
  calc pointingAt main batches.flatten
      = (batches.map (pointingAt main)).flatten := List.filter_flatten
    _ = (batches.map (pointingAt main))[i] :=
        flatten_eq_getElem _ fun j hj hne => by
          rw [List.getElem_map]
          exact hother j (by simpa using hj) hne
    _ = batches[i] := by rw [List.getElem_map, hbatch]

/-! ## Batches and 32-bit counters -/

/-- A 32-bit counter shows a number that it can hold. -/
theorem word32_eq {n : Nat} (h : n < UInt32.size) : word32 n = n := Nat.mod_eq_of_lt h

/-- A batch of a length that a 32-bit counter shows is a sound batch of rows of its parent. -/
theorem isBatch_iff {kind : RelatedKind} {index : Nat} {rows : List RelatedRow}
    (h : rows.length < UInt32.size) :
    IsBatch kind index rows ↔
      SoundBatch kind index rows ∧ ∀ row ∈ rows, row.parentId = DocId.main index := by
  have hplace : ∀ j, j < rows.length → word32 j = j := fun j hj => word32_eq (by omega)
  constructor
  · rintro ⟨hsize, hid, hparent, hsound⟩
    refine ⟨⟨?_, fun j hj => ?_, hsound⟩, hparent⟩
    · rw [word32_eq h]
      simpa [BatchBounds.holds] using hsize
    · rw [hplace j hj]
      exact hid j hj
  · rintro ⟨⟨hsize, hid, hsound⟩, hparent⟩
    rw [word32_eq h] at hsize
    refine ⟨by simpa [BatchBounds.holds] using hsize, fun j hj => ?_, hparent, hsound⟩
    rw [hid j hj, hplace j hj]

/-- A batch is far too short to wrap its counter. -/
theorem IsBatch.length_lt {kind : RelatedKind} {index : Nat} {rows : List RelatedRow}
    (h : IsBatch kind index rows) : rows.length < UInt32.size := by
  have hmost : kind.bounds.most ≤ 25 := by cases kind <;> decide
  have := h.size.2
  have : 25 < UInt32.size := by decide
  omega

/-! ## Ids -/

section

variable {kind : RelatedKind} {index : Nat} {rows : List RelatedRow}
  (h : ∀ j (hj : j < rows.length), rows[j].id = DocId.related kind index j)

include h

/-- Rows with the ids of their places have distinct ids. -/
theorem nodup_ids_of_places : (rows.map (·.id)).Nodup := by
  rw [List.Nodup, List.pairwise_map, List.pairwise_iff_getElem]
  intro i j hi hj hlt heq
  rw [h i hi, h j hj, DocId.related_inj] at heq
  exact absurd heq.2.2 (Nat.ne_of_lt hlt)

/-- The id of a row of a batch is that of a place in it. -/
theorem exists_place_of_id {id : String} (hid : id ∈ rows.map (·.id)) :
    ∃ j, id = DocId.related kind index j := by
  rcases List.mem_map.1 hid with ⟨row, hrow, rfl⟩
  rcases List.getElem_of_mem hrow with ⟨j, hj, rfl⟩
  exact ⟨j, h j hj⟩

end

/-- A main row and its rows, each with the id of its place, have distinct ids. -/
theorem nodup_groupIds_of_places {group : Group} {i : Nat} (hmain : group.main.id = DocId.main i)
    (h : ∀ kind j (hj : j < (group.related kind).length),
      (group.related kind)[j].id = DocId.related kind i j) : (Tally.groupIds group).Nodup := by
  have hchild := h .child
  have hinline := h .inline
  rw [Tally.groupIds, List.singleton_append, List.nodup_cons, List.nodup_append, hmain]
  refine ⟨fun hmem => ?_, nodup_ids_of_places hchild, nodup_ids_of_places hinline, ?_⟩
  · rcases List.mem_append.1 hmem with hmem | hmem
    · rcases exists_place_of_id hchild hmem with ⟨j, hj⟩
      exact DocId.main_ne_related _ _ _ _ hj
    · rcases exists_place_of_id hinline hmem with ⟨j, hj⟩
      exact DocId.main_ne_related _ _ _ _ hj
  · rintro id hid _ hid' rfl
    rcases exists_place_of_id hchild hid with ⟨j, rfl⟩
    rcases exists_place_of_id hinline hid' with ⟨j', hj'⟩
    cases (DocId.related_inj.1 hj').1

/-- A batch of the documented form passes the checks of batches. -/
theorem IsBatch.sound_batch {kind : RelatedKind} {index : Nat} {rows : List RelatedRow}
    (h : IsBatch kind index rows) : SoundBatch kind index rows :=
  ((isBatch_iff h.length_lt).1 h).1

/-- A group is main document `i` with its batches. -/
structure IsGroup (group : Group) (i : Nat) : Prop where
  id_eq : group.main.id = DocId.main i
  sound : SoundMain group.main
  batch : ∀ kind, IsBatch kind i (group.related kind)

/-- All ids of a group belong to the document of its number. -/
theorem IsGroup.mem_groupIds {group : Group} {i : Nat} (h : IsGroup group i) {id : String}
    (hid : id ∈ Tally.groupIds group) : DocId.OfDocument i id :=
  Tally.ofDocument_of_mem h.id_eq (fun kind => (h.batch kind).sound_batch) hid

/-- No id occurs twice in a group. -/
theorem IsGroup.nodup_ids {group : Group} {i : Nat} (h : IsGroup group i) :
    (Tally.groupIds group).Nodup :=
  nodup_groupIds_of_places h.id_eq fun kind => (h.batch kind).id_eq

/-- Ids of two groups in different places are distinct. -/
theorem IsGroup.disjoint_ids {group group' : Group} {i i' : Nat} (h : IsGroup group i)
    (h' : IsGroup group' i') (hne : i ≠ i') :
    (Tally.groupIds group).Disjoint (Tally.groupIds group') := by
  intro id hid hid'
  exact hne ((h.mem_groupIds hid).unique (h'.mem_groupIds hid'))

/-- No id occurs twice in the groups of different numbers. -/
theorem nodup_groupIds {groups : List Group}
    (h : ∀ i (hi : i < groups.length), IsGroup groups[i] i) :
    (groups.flatMap Tally.groupIds).Nodup := by
  rw [List.nodup_flatMap]
  constructor
  · intro group hgroup
    rcases List.getElem_of_mem hgroup with ⟨i, hi, rfl⟩
    exact (h i hi).nodup_ids
  · rw [List.pairwise_iff_getElem]
    intro i j hi hj hlt
    exact (h i hi).disjoint_ids (h j hj) (Nat.ne_of_lt hlt)

/-- The ids of the groups are those of the rows in the three lists. -/
theorem groupIds_perm (groups : List Group) :
    (groups.flatMap Tally.groupIds).Perm ((groups.map Group.main).map (·.id) ++
      ((groups.flatMap Group.children).map (·.id) ++
        (groups.flatMap Group.inlines).map (·.id))) := by
  rw [List.map_map, List.map_flatMap, List.map_flatMap]
  exact ((List.flatMap_append_perm groups _ _).append_left _ |>.trans
    (List.map_append_flatMap_perm groups (·.main.id) fun group =>
      group.children.map (·.id) ++ group.inlines.map (·.id))).symm

/-! ## A canonical dataset passes -/

/-- Related rows in batches all point at a main row. -/
theorem InBatches.unclaimed_eq_nil {kind : RelatedKind} {mains : List MainRow}
    {rows : List RelatedRow} (h : InBatches kind mains.length rows) (hmains : MainsInOrder mains) :
    unclaimed mains rows = [] := by
  rcases h with ⟨batches, hlength, hbatches, rfl⟩
  refine List.filter_eq_nil_iff.2 fun row hrow hnone => ?_
  rcases hbatches.exists_parent hrow with ⟨i, hi, -, hparent⟩
  rw [hlength] at hi
  have hne := of_decide_eq_true hnone mains[i] (List.getElem_mem hi)
  exact hne (hparent.trans (hmains i hi).1.symm)

/-- The rows in batches that point at main row `i` are a batch. -/
theorem InBatches.isBatch {kind : RelatedKind} {mains : List MainRow} {rows : List RelatedRow}
    (h : InBatches kind mains.length rows) (hmains : MainsInOrder mains) {i : Nat}
    (hi : i < mains.length) : IsBatch kind i (pointingAt mains[i] rows) := by
  rcases h with ⟨batches, hlength, hbatches, rfl⟩
  rw [← hlength] at hi
  rw [hbatches.pointingAt_eq hi (hmains i _).1]
  exact hbatches i hi

/-- The rows that point at each main row, in order, are all rows of the file. -/
theorem InBatches.flatMap_pointingAt {kind : RelatedKind} {mains : List MainRow}
    {rows : List RelatedRow} (h : InBatches kind mains.length rows) (hmains : MainsInOrder mains) :
    mains.flatMap (pointingAt · rows) = rows := by
  rcases h with ⟨batches, hlength, hbatches, rfl⟩
  have hmap : mains.map (pointingAt · batches.flatten) = batches := by
    refine List.ext_getElem (by rw [List.length_map, hlength]) fun i hi hi' => ?_
    rw [List.getElem_map]
    exact hbatches.pointingAt_eq hi' (hmains i _).1
  rw [List.flatMap_def, hmap]

/-- Main rows in order have ascending numbers. -/
theorem MainsInOrder.ascending {mains : List MainRow} (h : MainsInOrder mains)
    (hn : mains.length ≤ word64) : Ascending mains (List.range mains.length) where
  ids := by
    refine List.ext_getElem (by simp) fun i hi hi' => ?_
    simp only [List.getElem_map, List.getElem_range]
    exact (h i _).1
  below i hi := Nat.lt_of_lt_of_le (List.mem_range.1 hi) hn
  ascend := List.pairwise_lt_range

/-- Rows in batches are ordered by their parents. -/
theorem InBatches.parentsOrdered {kind : RelatedKind} {n : Nat} {rows : List RelatedRow}
    (h : InBatches kind n rows) (hn : n ≤ word64) : ParentsOrdered rows := by
  rcases h with ⟨batches, rfl, hbatches, rfl⟩
  exact hbatches.parentsOrdered hn

/-- What was read is the groups 0, 1, and so on, and the files are their rows. -/
structure InGroups (mains : List MainRow) (children inlines : List RelatedRow)
    (groups : List Group) : Prop where
  group : ∀ i (h : i < groups.length), IsGroup groups[i] i
  main : groups.map Group.main = mains
  children : groups.flatMap Group.children = children
  inlines : groups.flatMap Group.inlines = inlines

/-- The groups of a canonical dataset are its main documents, and no row is left. -/
theorem Canonical.inGroups {r : Reader} {mains : List MainRow}
    {children inlines : List RelatedRow} {groups : List Group} {left : List RelatedRow}
    (h : Canonical mains children inlines) (hn : mains.length ≤ word64)
    (hr : r.Holds mains children inlines) (hall : r.ReadsAll groups left) :
    InGroups mains children inlines groups ∧ (∀ g ∈ groups, g.orphans = []) ∧ left = [] := by
  rcases h with ⟨hmains, hc, hi⟩
  -- Each main row gets the rows that point at it, and those are the rows of its batch.
  obtain ⟨rfl, hown, hown', horphans⟩ := hall.join hr (hmains.ascending hn)
    (hc.parentsOrdered hn) (hi.parentsOrdered hn)
  rw [hc.unclaimed_eq_nil hmains, hi.unclaimed_eq_nil hmains, List.append_nil, List.perm_nil,
    List.append_eq_nil_iff, List.flatMap_eq_nil_iff] at horphans
  refine ⟨⟨fun i hi' => ?_, rfl, ?_, ?_⟩, horphans⟩
  · have hmain := hmains i (by rwa [List.length_map])
    rw [List.getElem_map] at hmain
    refine ⟨hmain.1, hmain.2, fun kind => ?_⟩
    have hbatchc := hc.isBatch hmains (i := i) (by rwa [List.length_map])
    have hbatchi := hi.isBatch hmains (i := i) (by rwa [List.length_map])
    rw [List.getElem_map] at hbatchc hbatchi
    cases kind with
    | child =>
      show IsBatch .child i groups[i].children
      rw [hown groups[i] (List.getElem_mem hi')]
      exact hbatchc
    | inline =>
      show IsBatch .inline i groups[i].inlines
      rw [hown' groups[i] (List.getElem_mem hi')]
      exact hbatchi
  · rw [← hc.flatMap_pointingAt hmains, List.flatMap_map]
    exact List.flatMap_congr hown
  · rw [← hi.flatMap_pointingAt hmains, List.flatMap_map]
    exact List.flatMap_congr hown'

/-- A group of the documented form passes, if it has no orphans. -/
theorem IsGroup.passes {group : Group} {i : Nat} (h : IsGroup group i)
    (horphans : group.orphans = []) : Tally.Passes group i := by
  have hbatch : ∀ kind, SoundBatch kind (Tally.parentIndex group i) (group.related kind) := by
    intro kind
    rw [Tally.parentIndex_eq h.id_eq]
    exact (h.batch kind).sound_batch
  exact ⟨h.id_eq, h.sound, hbatch .child, hbatch .inline, horphans⟩

/-- A canonical dataset passes, and all of it is counted. -/
theorem Canonical.tally_clean {r : Reader} {mains : List MainRow}
    {children inlines : List RelatedRow} (h : Canonical mains children inlines)
    (hn : mains.length ≤ word64) (hr : r.Holds mains children inlines) (most : Nat) :
    ∃ t, tallyReader { most } r = .ok t ∧ t.violationCount = 0 ∧
      t.summary = ⟨mains.length, children.length, inlines.length, 0, Tally.deletedCount mains⟩ := by
  rcases Reader.exists_readsAll hr with ⟨groups, left, hall⟩
  rcases h.inGroups hn hr hall with ⟨hgroups, horphans, rfl⟩
  refine ⟨_, tallyReader_ok_iff.2 ⟨groups, [], hall, rfl⟩, ?_, ?_⟩
  · -- no id was seen before the first group, so only ids of the groups could repeat
    refine Tally.checkGroups_clean_iff.2 ⟨rfl, fun i hi => ?_, nodup_groupIds hgroups.group, ?_⟩
    · rw [Nat.zero_add]
      exact (hgroups.group i hi).passes (horphans _ (List.getElem_mem hi))
    · intro id _
      exact Std.HashSet.contains_empty
  · rw [List.foldl_nil, Tally.summary_checkGroups, ← hgroups.main, ← hgroups.children,
      ← hgroups.inlines, List.length_map]
    have hcount : Tally.rowCount Group.orphans groups = 0 := by
      rw [Tally.rowCount, List.flatMap_eq_nil_iff.2 horphans, List.length_nil]
    rw [hcount]
    simp [Tally.rowCount]

/-- A canonical dataset has an evaluation without violations. -/
theorem Canonical.exists_clean_run {options : Options} {dir : String} {session : Session}
    {r : Reader} {tree : FileTree} {mains : List MainRow} {children inlines : List RelatedRow}
    (h : Canonical mains children inlines) (hn : mains.length ≤ word64)
    (hopen : Reader.openDir dir options.headers session.tree = (.ok r, tree))
    (hr : r.Holds mains children inlines) :
    ∃ result, (∃ after, run options dir session = (.ok result, after)) ∧
      result.violationCount = 0 := by
  rcases h.tally_clean hn hr options.maxExamples with ⟨t, htally, hclean, -⟩
  exact ⟨t.toResult dir, run_ok_iff.2 ⟨r, tree, t, hopen, htally, rfl, fun _ => hclean⟩, hclean⟩

/-! ## A dataset that passes is canonical -/

/-- Groups with batches of a kind make a file of that kind in batches. -/
theorem inBatches_of_groups (kind : RelatedKind) {groups : List Group}
    (h : ∀ i (hi : i < groups.length), IsGroup groups[i] i) :
    InBatches kind groups.length (groups.flatMap (Group.related · kind)) := by
  refine ⟨groups.map (Group.related · kind), List.length_map _, fun i hi => ?_,
    List.flatMap_def⟩
  rw [List.getElem_map]
  exact (h i _).batch kind

theorem length_le_flatMap (rows : Group → List RelatedRow) {group : Group} {groups : List Group}
    (h : group ∈ groups) : (rows group).length ≤ (groups.flatMap rows).length := by
  rw [List.flatMap_def]
  exact (List.sublist_flatten_of_mem (List.mem_map_of_mem h)).length_le

/-- A dataset that passes is canonical, and no id occurs twice in its files. -/
theorem canonical_of_clean {r : Reader} {mains : List MainRow}
    {children inlines : List RelatedRow} {t : Tally} {most : Nat}
    (htally : tallyReader { most } r = .ok t) (hclean : t.violationCount = 0)
    (hr : r.Holds mains children inlines) (hc : children.length < UInt32.size)
    (hi : inlines.length < UInt32.size) :
    Canonical mains children inlines ∧
      (mains.map (·.id) ++ (children.map (·.id) ++ inlines.map (·.id))).Nodup := by
  rcases tallyReader_ok_iff.1 htally with ⟨groups, left, hall, rfl⟩
  have hnil : violationsOf groups left = [] := by
    rw [← List.length_eq_zero_iff, ← (Tally.records_of_groups most groups left).count_eq]
    exact hclean
  obtain ⟨h, -, rfl, rfl, rfl⟩ := clean_of_violationsOf hall hr hnil
  -- A batch is no longer than its file, so the 32-bit counters show its places.
  have hshort : ∀ g ∈ groups, ∀ kind, (g.related kind).length < UInt32.size := by
    intro g hg kind
    cases kind with
    | child => exact Nat.lt_of_le_of_lt (length_le_flatMap Group.children hg) hc
    | inline => exact Nat.lt_of_le_of_lt (length_le_flatMap Group.inlines hg) hi
  have hgroups : ∀ i (hi : i < groups.length), IsGroup groups[i] i := by
    intro i hi
    have hmem := List.getElem_mem hi
    have hpass := h.passes i hi
    refine ⟨hpass.id_eq, hpass.main, fun kind => (isBatch_iff (hshort _ hmem kind)).2
      ⟨hpass.batch kind, fun row hrow => ?_⟩⟩
    rw [h.parent_eq _ hmem kind row hrow, hpass.id_eq]
  refine ⟨⟨fun i hi => ?_, ?_, ?_⟩, (groupIds_perm groups).nodup_iff.1 h.nodup⟩
  · rw [List.length_map] at hi
    rw [List.getElem_map]
    exact ⟨(hgroups i hi).id_eq, (hgroups i hi).sound⟩
  · rw [List.length_map]
    exact inBatches_of_groups .child hgroups
  · rw [List.length_map]
    exact inBatches_of_groups .inline hgroups

/-! ## The verdict -/

theorem length_le_flatten {α : Type} {lists : List (List α)} (h : ∀ list ∈ lists, list ≠ []) :
    lists.length ≤ lists.flatten.length := by
  induction lists with
  | nil => exact Nat.zero_le _
  | cons first lists ih =>
    rcases List.forall_mem_cons.1 h with ⟨hfirst, hrest⟩
    have := List.length_pos_iff.2 hfirst
    have := ih hrest
    rw [List.flatten_cons, List.length_append, List.length_cons]
    omega

/-- As each main row has a child, few children make few main rows. -/
theorem InBatches.le_length {n : Nat} {children : List RelatedRow}
    (h : InBatches .child n children) : n ≤ children.length := by
  rcases h with ⟨batches, rfl, hbatches, rfl⟩
  refine length_le_flatten fun batch hbatch => ?_
  rcases List.getElem_of_mem hbatch with ⟨i, hi, rfl⟩
  have hleast : 5 ≤ batches[i].length := (hbatches i hi).size.1
  exact List.ne_nil_of_length_pos (by omega)

/--
A strict evaluation of files without a bad row, each related file of fewer than
2^32 rows, succeeds exactly if the files are canonical: main row `i` has id `i`
and sound columns, and each related file is a batch for each main row in turn. In
what passes, no id occurs twice.
-/
theorem strict_ok_iff_canonical {options : Options} {dir : String} {session : Session}
    {r : Reader} {tree : FileTree} {mains : List MainRow} {children inlines : List RelatedRow}
    (hstrict : options.strict = true)
    (hopen : Reader.openDir dir options.headers session.tree = (.ok r, tree))
    (hr : r.Holds mains children inlines) (hc : children.length < UInt32.size)
    (hi : inlines.length < UInt32.size) :
    ((∃ result session', run options dir session = (.ok result, session')) ↔
      Canonical mains children inlines) ∧
    ((∃ result session', run options dir session = (.ok result, session')) →
      (mains.map (·.id) ++ (children.map (·.id) ++ inlines.map (·.id))).Nodup) := by
  have hpasses : (∃ result session', run options dir session = (.ok result, session')) →
      Canonical mains children inlines ∧
        (mains.map (·.id) ++ (children.map (·.id) ++ inlines.map (·.id))).Nodup := by
    rintro ⟨result, hrun⟩
    rcases run_ok_iff.1 hrun with ⟨r', tree', t, hopen', htally, -, hclean⟩
    rw [hopen] at hopen'
    cases hopen'
    exact canonical_of_clean htally (hclean hstrict) hr hc hi
  refine ⟨⟨fun h => (hpasses h).1, fun hcanonical => ?_⟩, fun h => (hpasses h).2⟩
  -- Each main row has children, so few children make few main rows.
  have hn : mains.length ≤ word64 := by
    have := hcanonical.childBatches.le_length
    have : UInt32.size ≤ word64 := by decide
    omega
  rcases hcanonical.tally_clean hn hr options.maxExamples with ⟨t, htally, hclean, -⟩
  exact ⟨t.toResult dir, run_ok_iff.2 ⟨r, tree, t, hopen, htally, rfl, fun _ => hclean⟩⟩

/-- One main document with five children and no inline document. -/
def soundFiles : Files where
  main := .file ("ID000000,2020-02-29 23:59:60,true," ++
    "\"\x7b\"\"key\"\":\"\"AB1-KEY\"\",\"\"value\"\":\"\"12.50\"\",\"\"name\"\":\"\"x\"\"\x7d\"," ++
    "Lorem ipsum.,Lorem.,\"\x7b'a','b','c'\x7d\",Alert dbonly.\n").toByteArray
  child := .file ("CHILD000000:00,ID000000,Lorem.,child.\nCHILD000000:01,ID000000,Lorem.,doc.\n" ++
    "CHILD000000:02,ID000000,Lorem.,doc.\nCHILD000000:03,ID000000,Lorem.,noforward.\n" ++
    "CHILD000000:04,ID000000,Lorem.,dbonly.\n").toByteArray
  inline := .file "".toByteArray

/-- The good rows of a file. -/
def goodRows {α : Type} (feed : Feed α) : List α := feed.filterMap Except.toOption

/-- A feed without bad rows is that of its good rows. -/
theorem map_goodRows {α : Type} {feed : Feed α} (h : feed.all (·.toOption.isSome) = true) :
    feed = (goodRows feed).map .ok := by
  induction feed with
  | nil => rfl
  | cons row feed ih =>
    rw [List.all_cons, Bool.and_eq_true] at h
    cases row with
    | error e => exact absurd h.1 Bool.false_ne_true
    | ok row => exact congrArg (Except.ok row :: ·) (ih h.2)

/-- The files of one sound document are canonical, and pass. -/
theorem one_document_passes :
    ∃ r tree mains children inlines, Reader.openDir "data" false soundFiles.dataTree =
        (.ok r, tree) ∧ r.Holds mains children inlines ∧ mains.length = 1 ∧
      (∃ result session', run { strict := true } "data" { tree := soundFiles.dataTree } =
        (.ok result, session')) ∧
      (mains.map (·.id) ++ (children.map (·.id) ++ inlines.map (·.id))).Nodup := by
  -- Only the reading is evaluated; the verdict comes from the canonical form.
  have hok : (Reader.openDir "data" false soundFiles.dataTree).1.toOption.any (fun r =>
      (r.main.all (·.toOption.isSome) && r.child.rest.all (·.toOption.isSome) &&
        r.inline.rest.all (·.toOption.isSome)) &&
      decide ((goodRows r.main).length = 1 ∧ MainsInOrder (goodRows r.main) ∧
        AreBatches .child [goodRows r.child.rest] ∧
        AreBatches .inline [goodRows r.inline.rest])) = true := by
    decide +kernel
  rcases exists_ok_of_fst_any hok with ⟨r, tree, hopen, hr⟩
  simp only [Bool.and_eq_true, decide_eq_true_eq] at hr
  rcases hr with ⟨⟨⟨hm, hc⟩, hi⟩, hlength, hmains, hchildren, hinlines⟩
  have hholds : r.Holds (goodRows r.main) (goodRows r.child.rest) (goodRows r.inline.rest) :=
    ⟨map_goodRows hm, map_goodRows hc, map_goodRows hi⟩
  have hcanonical : Canonical (goodRows r.main) (goodRows r.child.rest) (goodRows r.inline.rest) :=
    ⟨hmains, ⟨[_], hlength.symm, hchildren, by simp⟩, ⟨[_], hlength.symm, hinlines, by simp⟩⟩
  have hshort : ∀ {kind rows}, AreBatches kind [rows] → rows.length < UInt32.size :=
    fun h => (h 0 Nat.zero_lt_one).length_lt
  have hverdict := @strict_ok_iff_canonical { strict := true } "data"
    { tree := soundFiles.dataTree } r tree _ _ _ rfl hopen hholds (hshort hchildren)
    (hshort hinlines)
  have hrun := hverdict.1.2 hcanonical
  exact ⟨r, tree, _, _, _, hopen, hholds, hlength, hrun, hverdict.2 hrun⟩

end LinkedDocs.Evaluation
