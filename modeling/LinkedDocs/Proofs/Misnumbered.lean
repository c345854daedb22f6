import LinkedDocs.Proofs.Canonical

/-!
# A misnumbered main row

One main row of a clean dataset takes the number of a document that is not
there, and its related rows follow it. For the reader this row lies ahead of
all others: it passes over the related rows of the later main rows as orphans.

* `MainRow.renumber`, `renumbered`: the dataset with the other number.
* `Clean.misnumbered_readsAll`: the groups that are read; the later main rows are left bare.
* `Clean.misnumbered_violations`: what is reported of them.
* `misnumbered_row_orphans_later_rows`: the evaluation, and when it reports no more than the number.
-/

namespace LinkedDocs

/-! ## Another number -/

namespace Dataset

/-- The row with the id of main document `k`. -/
def MainRow.renumber (k : Nat) (row : MainRow) : MainRow := { row with id := DocId.main k }

/-- The row as row `j` of the batch of main document `k`. -/
def RelatedRow.renumber (kind : RelatedKind) (k j : Nat) (row : RelatedRow) : RelatedRow :=
  { row with id := DocId.related kind k j, parentId := DocId.main k }

/-- The rows of a file; those of main document `i` become the rows of `k` from row `j` on. -/
def renumberedFrom (kind : RelatedKind) (i k j : Nat) : List RelatedRow → List RelatedRow
  | [] => []
  | row :: rest =>
    if row.parentId = DocId.main i then
      row.renumber kind k j :: renumberedFrom kind i k (j + 1) rest
    else row :: renumberedFrom kind i k j rest

/-- The rows of a file; those of main document `i` become the rows of `k`. -/
def renumbered (kind : RelatedKind) (i k : Nat) (rows : List RelatedRow) : List RelatedRow :=
  renumberedFrom kind i k 0 rows

/-- The rows of a batch as those of main document `k`. -/
def renumberedBatch (kind : RelatedKind) (k : Nat) (rows : List RelatedRow) : List RelatedRow :=
  rows.mapIdx fun j row => row.renumber kind k j

section

variable {kind : RelatedKind} {i k : Nat} {rows : List RelatedRow}

/-- Rows of other documents stay as they are. -/
theorem renumberedFrom_append_of_ne (j : Nat) (rest : List RelatedRow)
    (h : ∀ row ∈ rows, row.parentId ≠ DocId.main i) :
    renumberedFrom kind i k j (rows ++ rest) = rows ++ renumberedFrom kind i k j rest := by
  induction rows with
  | nil => rfl
  | cons row rows ih =>
    rcases List.forall_mem_cons.1 h with ⟨hrow, h⟩
    rw [List.cons_append, renumberedFrom, if_neg hrow, ih h, List.cons_append]

/-- Rows of the document take their places in the new batch. -/
theorem renumberedFrom_append_of_eq (j : Nat) (rest : List RelatedRow)
    (h : ∀ row ∈ rows, row.parentId = DocId.main i) :
    renumberedFrom kind i k j (rows ++ rest) =
      rows.mapIdx (fun m row => row.renumber kind k (j + m)) ++
        renumberedFrom kind i k (j + rows.length) rest := by
  induction rows generalizing j with
  | nil => rfl
  | cons row rows ih =>
    rcases List.forall_mem_cons.1 h with ⟨hrow, h⟩
    rw [List.cons_append, renumberedFrom, if_pos hrow, ih (j + 1) h, List.mapIdx_cons,
      List.cons_append, List.length_cons]
    simp only [Nat.add_zero, Nat.add_assoc, Nat.add_comm 1]

/-- A batch between those of other documents is renumbered in its place. -/
theorem renumbered_append {front back : List RelatedRow}
    (hfront : ∀ row ∈ front, row.parentId ≠ DocId.main i)
    (hrows : ∀ row ∈ rows, row.parentId = DocId.main i)
    (hback : ∀ row ∈ back, row.parentId ≠ DocId.main i) :
    renumbered kind i k (front ++ (rows ++ back)) =
      front ++ (renumberedBatch kind k rows ++ back) := by
  have hend : renumberedFrom kind i k (0 + rows.length) back = back := by
    simpa [renumberedFrom] using renumberedFrom_append_of_ne (0 + rows.length) [] hback
  rw [renumbered, renumberedFrom_append_of_ne 0 _ hfront, renumberedFrom_append_of_eq 0 _ hrows,
    hend, renumberedBatch]
  simp only [Nat.zero_add]

/-- Renumbered rows point at the new document. -/
theorem parentId_of_mem_renumberedBatch {row : RelatedRow}
    (h : row ∈ renumberedBatch kind k rows) : row.parentId = DocId.main k := by
  rcases List.mem_mapIdx.1 h with ⟨j, hj, rfl⟩
  rfl

/-- The ids of a renumbered batch, by their places. -/
theorem ids_renumberedBatch (kind : RelatedKind) (k : Nat) (rows : List RelatedRow) :
    (renumberedBatch kind k rows).map (·.id) =
      (List.range rows.length).map (DocId.related kind k) := by
  refine List.ext_getElem (by simp [renumberedBatch]) fun j hj hj' => ?_
  simp [renumberedBatch, RelatedRow.renumber]

/-- Renumbered rows have distinct ids, whatever ids they had. -/
theorem nodup_ids_renumberedBatch (kind : RelatedKind) (k : Nat) (rows : List RelatedRow) :
    ((renumberedBatch kind k rows).map (·.id)).Nodup := by
  rw [ids_renumberedBatch]
  exact List.nodup_range.map fun j j' h => (DocId.related_inj.1 h).2.2

theorem exists_of_mem_ids_renumberedBatch {id : String}
    (h : id ∈ (renumberedBatch kind k rows).map (·.id)) : ∃ j, id = DocId.related kind k j := by
  rw [ids_renumberedBatch] at h
  rcases List.mem_map.1 h with ⟨j, -, rfl⟩
  exact ⟨j, rfl⟩

end

end Dataset

namespace Evaluation

open Dataset Text

/-! ## What the number changes -/

/-- The id is no part of what makes a main row sound. -/
theorem SoundMain.renumber {row : MainRow} (h : SoundMain row) (k : Nat) :
    SoundMain (row.renumber k) :=
  ⟨h.date, h.deleted, h.nested, h.nonSearchable_length, h.text_length, h.ignoreMe_length,
    h.vocabulary, h.textArray⟩

/-- A sound batch is sound under another number. -/
theorem SoundBatch.renumber {kind : RelatedKind} {parent : Nat} {rows : List RelatedRow}
    (h : SoundBatch kind parent rows) (hids : (rows.map (·.id)).Nodup) (k : Nat) :
    SoundBatch kind k (renumberedBatch kind k rows) where
  size := by
    rw [renumberedBatch, List.length_mapIdx]
    exact h.size
  id_eq j hj := by
    rw [renumberedBatch, List.length_mapIdx] at hj
    have hplace : word32 j = j := word32_eq (Nat.lt_of_lt_of_le hj (h.length_le hids))
    simp only [renumberedBatch, List.getElem_mapIdx, RelatedRow.renumber, hplace]
  sound row hrow := by
    rcases List.mem_mapIdx.1 hrow with ⟨j, hj, rfl⟩
    have hsound := h.sound rows[j] (List.getElem_mem hj)
    exact ⟨hsound.value_length, hsound.ignoreMe_length, hsound.vocabulary⟩

/-! ## Reading the dataset with the other number -/

/-- The group of the misnumbered row: its own rows, and those of the later groups as orphans. -/
def misnumberedGroup (k : Nat) (group : Group) (back : List Group) : Group where
  main := group.main.renumber k
  children := renumberedBatch .child k group.children
  inlines := renumberedBatch .inline k group.inlines
  orphans := back.flatMap Group.children ++ back.flatMap Group.inlines

/-- What is read if the row behind `front` has number `k`: the later main rows are left bare. -/
def misnumberedGroups (k : Nat) (front : List Group) (group : Group) (back : List Group) :
    List Group :=
  front ++ misnumberedGroup k group back :: (back.map Group.main).map Group.bare

/-- The main file, by the groups around the misnumbered row. -/
theorem modify_mains (front : List Group) (group : Group) (back : List Group) (k : Nat) :
    ((front ++ group :: back).map Group.main).modify front.length (·.renumber k) =
      front.map Group.main ++ group.main.renumber k :: back.map Group.main := by
  rw [List.modify_eq_take_cons_drop (by simp)]
  simp [List.drop_append]

namespace Clean

variable {front back : List Group} {group : Group} {k : Nat}

/-- A related file, by the groups around the misnumbered row. -/
theorem renumbered_related (h : Clean (front ++ group :: back)) (kind : RelatedKind) (k : Nat) :
    renumbered kind front.length k ((front ++ group :: back).flatMap (Group.related · kind)) =
      front.flatMap (Group.related · kind) ++
        (renumberedBatch kind k (group.related kind) ++
          back.flatMap (Group.related · kind)) := by
  obtain ⟨hfront, hgroup, hback⟩ := h.inPlace_around
  rw [List.flatMap_append, List.flatMap_cons]
  refine renumbered_append (fun row hrow => ?_) (fun row hrow => ?_) fun row hrow => ?_
  · have hfront : ∀ i (hi : i < front.length), InPlace front[i] (0 + i) := by simpa using hfront
    rcases exists_place_of_mem hfront hrow with ⟨i, hi, hparent⟩
    rw [hparent]
    exact fun heq => absurd (DocId.main_injective heq) (by omega)
  · exact (hgroup.parent_eq kind row hrow).trans hgroup.id_eq
  · rcases exists_place_of_mem hback hrow with ⟨i, hi, hparent⟩
    rw [hparent]
    exact fun heq => absurd (DocId.main_injective heq) (by omega)

/-- The groups up to the misnumbered row are read as they are; it takes all rows behind it. -/
theorem misnumbered_readsAll (h : Clean (front ++ group :: back))
    (hk : (front ++ group :: back).length ≤ k) (hk' : k < word64) {r : Reader}
    (hr : r.Holds (((front ++ group :: back).map Group.main).modify front.length (·.renumber k))
      (renumbered .child front.length k ((front ++ group :: back).flatMap Group.children))
      (renumbered .inline front.length k ((front ++ group :: back).flatMap Group.inlines))) :
    r.ReadsAll (misnumberedGroups k front group back) [] := by
  obtain ⟨hfront, -, hback⟩ := h.inPlace_around
  rw [List.length_append, List.length_cons] at hk
  have hchildren := h.renumbered_related .child k
  have hinlines := h.renumbered_related .inline k
  simp only [Group.related] at hchildren hinlines
  rw [modify_mains, hchildren, hinlines] at hr
  have hfrom : ∀ kind, PointFrom (0 + front.length)
      (renumberedBatch kind k (group.related kind) ++ back.flatMap (Group.related · kind)) := by
    intro kind
    refine .append (fun row hrow => ?_) ((pointFrom_related kind hback (by omega)).mono (by omega))
    exact ⟨k, by omega, hk', parentId_of_mem_renumberedBatch hrow⟩
  refine Reader.ReadsAll.of_inPlace hr (by simpa using hfront) (by omega)
    ((hfrom .child).append (hfrom .inline)) fun r' hr' => ?_
  -- The misnumbered row lies ahead of all later ones.
  have hown : ∀ kind, ∀ row ∈ renumberedBatch kind k (group.related kind),
      row.standing (group.main.renumber k) = .own := by
    intro kind row hrow
    exact RelatedRow.standing_eq_own_iff.2 (parentId_of_mem_renumberedBatch hrow)
  have hbehind : ∀ kind, ∀ row ∈ back.flatMap (Group.related · kind),
      row.standing (group.main.renumber k) = .behind := by
    intro kind row hrow
    rcases exists_place_of_mem hback hrow with ⟨i, hi, hparent⟩
    rw [RelatedRow.standing_of_ids hparent (by omega) rfl hk', if_neg (by omega),
      if_pos (by omega)]
  have hsplit : r'.Holds (group.main.renumber k :: back.map Group.main)
      ((renumberedBatch .child k group.children ++ back.flatMap Group.children) ++ [])
      ((renumberedBatch .inline k group.inlines ++ back.flatMap Group.inlines) ++ []) := by
    simpa using hr'
  exact Reader.ReadsAll.cons hsplit (List.forall_mem_append.2 ⟨hown .child, hown .inline⟩)
    (List.forall_mem_append.2 ⟨hbehind .child, hbehind .inline⟩) (by simp)
    fun r'' hr'' => Reader.readsAll_bare hr''

end Clean

/-! ## What is reported of it -/

/-- A main row without its children is reported for the size of that batch alone. -/
theorem groupsViolations_bare {mains : List MainRow} {expected : Nat} {ids : List String}
    (h : ∀ i (hi : i < mains.length), mains[i].id = DocId.main (expected + i) ∧ SoundMain mains[i])
    (hids : ∀ main ∈ mains, main.id ∉ ids) :
    groupsViolations expected ids (mains.map Group.bare) =
      mains.flatMap (sizeViolations .child · 0) := by
  induction mains generalizing expected ids with
  | nil => rfl
  | cons main mains ih =>
    obtain ⟨⟨hid, hsound⟩, hrest⟩ := forall_getElem_cons
      (P := fun i main => main.id = DocId.main i ∧ SoundMain main) |>.1 h
    rcases List.forall_mem_cons.1 hids with ⟨hnew, hids⟩
    have hinline : sizeViolations .inline main 0 = [] := sizeViolations_eq_nil_iff.2 (by decide)
    have hmain : mainViolations main expected (ids.contains main.id) = [] :=
      mainViolations_eq_nil_iff.2 ⟨hid, by simpa using hnew, hsound⟩
    have hgroup : groupViolations expected ids (.bare main) = sizeViolations .child main 0 := by
      simp only [groupViolations, Group.bare, batchViolations, rowsViolations, hmain, hinline,
        List.length_nil, List.map_nil, List.append_nil, List.nil_append]
    rw [List.map_cons, groupsViolations, hgroup, List.flatMap_cons, ih hrest]
    intro later hlater
    rcases List.getElem_of_mem hlater with ⟨i, hi, rfl⟩
    rw [Tally.groupIds, List.mem_append, not_or]
    refine ⟨hids _ hlater, ?_⟩
    have hne : mains[i].id ≠ main.id := by
      rw [(hrest i hi).1, hid]
      exact fun heq => absurd (DocId.main_injective heq) (by omega)
    simpa [Group.bare] using hne

/-- The ids of the misnumbered group belong to the document of its number. -/
theorem ofDocument_misnumberedGroup {k : Nat} {group : Group} {back : List Group} {id : String}
    (h : id ∈ Tally.groupIds (misnumberedGroup k group back)) : DocId.OfDocument k id := by
  rw [Tally.groupIds, List.mem_append, List.mem_singleton, List.mem_append] at h
  rcases h with rfl | h | h
  · exact .inl rfl
  · rcases exists_of_mem_ids_renumberedBatch h with ⟨j, rfl⟩
    exact .inr ⟨.child, j, rfl⟩
  · rcases exists_of_mem_ids_renumberedBatch h with ⟨j, rfl⟩
    exact .inr ⟨.inline, j, rfl⟩

/-- What is reported if the row in place `i` has number `k`, by its group and the later ones. -/
def misnumberedReports (i k : Nat) (group : Group) (back : List Group) : List Violation :=
  misplacedViolation (group.main.renumber k) i ::
    ((back.flatMap Group.children ++ back.flatMap Group.inlines).map orphanViolation ++
      (back.map Group.main).flatMap (sizeViolations .child · 0))

namespace Clean

variable {front back : List Group} {group : Group} {k : Nat}

/-- A renumbered batch has nothing to report if its ids are new. -/
theorem batchViolations_renumbered (h : Clean (front ++ group :: back)) (kind : RelatedKind)
    (main : MainRow) {ids : List String} (hids : ∀ j, DocId.related kind k j ∉ ids) :
    batchViolations kind main k ids (renumberedBatch kind k (group.related kind)) = [] := by
  obtain ⟨-, hgroup, -⟩ := h.passes_around
  have hnodup := h.nodup_related (g := group) (by simp) kind
  refine batchViolations_eq_nil_iff.2 ⟨(hgroup.batch kind).renumber hnodup k,
    nodup_ids_renumberedBatch _ _ _, fun id hid => ?_⟩
  rcases exists_of_mem_ids_renumberedBatch hid with ⟨j, rfl⟩
  exact hids j

/-- The ids in front of a group belong to the documents in front of it. -/
theorem ofDocument_of_mem_front (h : Clean (front ++ group :: back)) {id : String}
    (hid : id ∈ front.flatMap Tally.groupIds) : ∃ i < front.length, DocId.OfDocument i id := by
  obtain ⟨hfront, -, -⟩ := h.passes_around
  rcases List.mem_flatMap.1 hid with ⟨g, hg, hid⟩
  rcases List.getElem_of_mem hg with ⟨i, hi, rfl⟩
  exact ⟨i, hi, (hfront i hi).ofDocument hid⟩

/-- The misnumbered row is reported for its number, and its group for the orphans alone. -/
theorem groupViolations_misnumbered (h : Clean (front ++ group :: back)) (hk : front.length < k)
    (hk' : k < word64) :
    groupViolations front.length (front.flatMap Tally.groupIds) (misnumberedGroup k group back) =
      misplacedViolation (group.main.renumber k) front.length ::
        (back.flatMap Group.children ++ back.flatMap Group.inlines).map orphanViolation := by
  obtain ⟨-, hgroup, -⟩ := h.passes_around
  have hnew : ∀ id, DocId.OfDocument k id → id ∉ front.flatMap Tally.groupIds := by
    intro id hid hmem
    rcases h.ofDocument_of_mem_front hmem with ⟨i, hi, hid'⟩
    exact absurd (hid.unique hid') (by omega)
  have hparent : Tally.parentIndex (misnumberedGroup k group back) front.length = k := by
    rw [Tally.parentIndex, index?_of_id rfl hk', Option.getD_some]
  have hne : (group.main.renumber k).id ≠ DocId.main front.length :=
    fun heq => absurd (DocId.main_injective heq) (by omega)
  have hmain : mainViolations (group.main.renumber k) front.length
      ((front.flatMap Tally.groupIds).contains (group.main.renumber k).id) =
        [misplacedViolation (group.main.renumber k) front.length] := by
    have hunseen : (front.flatMap Tally.groupIds).contains (group.main.renumber k).id = false := by
      rw [← Bool.not_eq_true, List.contains_iff_mem]
      exact hnew _ (.inl rfl)
    rw [hunseen, mainViolations_of_sound (hgroup.main.renumber k), if_neg hne]
  have hnewRelated : ∀ kind j,
      DocId.related kind k j ∉ front.flatMap Tally.groupIds ++ [DocId.main k] := by
    intro kind j hmem
    rcases List.mem_append.1 hmem with hmem | hmem
    · exact hnew _ (.inr ⟨kind, j, rfl⟩) hmem
    · exact DocId.main_ne_related _ _ _ _ (List.mem_singleton.1 hmem).symm
  have hchildren := h.batchViolations_renumbered .child (group.main.renumber k) (hnewRelated .child)
  have hnewInline : ∀ j, DocId.related .inline k j ∉ front.flatMap Tally.groupIds ++
      [DocId.main k] ++ (renumberedBatch .child k group.children).map (·.id) := by
    intro j hmem
    rcases List.mem_append.1 hmem with hmem | hmem
    · exact hnewRelated .inline j hmem
    · rcases exists_of_mem_ids_renumberedBatch hmem with ⟨j', hj'⟩
      cases (DocId.related_inj.1 hj').1
  have hinlines := h.batchViolations_renumbered .inline (group.main.renumber k) hnewInline
  rw [groupViolations, hparent]
  simp only [misnumberedGroup, MainRow.renumber, Group.related] at hmain hchildren hinlines ⊢
  rw [hmain, hchildren, hinlines]
  rfl

/-- The violations of the groups that are read. -/
theorem misnumbered_violations (h : Clean (front ++ group :: back))
    (hk : (front ++ group :: back).length ≤ k) (hk' : k < word64) :
    violationsOf (misnumberedGroups k front group back) [] =
      misnumberedReports front.length k group back := by
  obtain ⟨-, hgroup, hback⟩ := h.passes_around
  rw [List.length_append, List.length_cons] at hk
  have hfront : groupsViolations 0 [] front = [] := by
    have hnil := violationsOf_eq_nil_iff.2 ⟨h.passes, h.nodup, rfl⟩
    rw [violationsOf, groupsViolations_append, List.append_eq_nil_iff,
      List.append_eq_nil_iff] at hnil
    exact hnil.1.1
  have hlater : groupsViolations (front.length + 1) (front.flatMap Tally.groupIds ++
      Tally.groupIds (misnumberedGroup k group back)) ((back.map Group.main).map Group.bare) =
        (back.map Group.main).flatMap (sizeViolations .child · 0) := by
    refine groupsViolations_bare (fun i hi => ?_) fun main hmain hmem => ?_
    · rw [List.length_map] at hi
      rw [List.getElem_map]
      exact ⟨(hback i hi).id_eq, (hback i hi).main⟩
    · rcases List.mem_map.1 hmain with ⟨g, hg, rfl⟩
      rcases List.getElem_of_mem hg with ⟨i, hi, rfl⟩
      have hid : DocId.OfDocument (front.length + 1 + i) back[i].main.id := .inl (hback i hi).id_eq
      rcases List.mem_append.1 hmem with hmem | hmem
      · rcases h.ofDocument_of_mem_front hmem with ⟨m, hm, hid'⟩
        exact absurd (hid.unique hid') (by omega)
      · exact absurd (hid.unique (ofDocument_misnumberedGroup hmem)) (by omega)
  rw [violationsOf, misnumberedGroups, groupsViolations_append, hfront, groupsViolations,
    List.nil_append, List.nil_append, Nat.zero_add, h.groupViolations_misnumbered (by omega) hk',
    hlater, misnumberedReports]
  simp

end Clean

/-- More than the number is reported exactly if there are main rows behind. -/
theorem length_misnumberedReports_eq_one_iff {i k : Nat} {group : Group} {back : List Group} :
    (misnumberedReports i k group back).length = 1 ↔ back = [] := by
  constructor
  · intro h
    cases back with
    | nil => rfl
    | cons g back =>
      -- the size of its batch of children counts against each of them
      have hsize : sizeViolations .child g.main 0 ≠ [] :=
        mt sizeViolations_eq_nil_iff.1 (by decide)
      have hpos := List.length_pos_iff.2 hsize
      simp only [misnumberedReports, List.map_cons, List.flatMap_cons, List.length_cons,
        List.length_append, List.length_map] at h
      omega
  · rintro rfl
    rfl

/-- A list by what stands before and behind one of its places. -/
theorem exists_eq_append_cons {α : Type} {l : List α} {i : Nat} (h : i < l.length) :
    ∃ front a back, l = front ++ a :: back ∧ front.length = i :=
  ⟨l.take i, l[i], l.drop (i + 1), by simp, List.length_take_of_le (Nat.le_of_lt h)⟩

/-- A lenient evaluation of the dataset with the other number. -/
theorem Clean.misnumbered_run {groups : List Group} (h : Clean groups) {i k : Nat}
    (hi : i < groups.length) (hk : groups.length ≤ k) (hk' : k < word64) {options : Options}
    {dir : String} {session : Session} {r : Reader} {tree : FileTree}
    (hopen : Reader.openDir dir options.headers session.tree = (.ok r, tree))
    (hr : r.Holds ((groups.map Group.main).modify i (·.renumber k))
      (renumbered .child i k (groups.flatMap Group.children))
      (renumbered .inline i k (groups.flatMap Group.inlines)))
    (hlenient : options.strict = false) :
    ∃ front group back, groups = front ++ group :: back ∧ front.length = i ∧
      r.ReadsAll (misnumberedGroups k front group back) [] ∧
      ∃ result after, run options dir session = (.ok result, after) ∧
        result.violationCount = (misnumberedReports i k group back).length ∧
        result.violations = (misnumberedReports i k group back).take options.maxExamples ∧
        (result.violationCount = 1 ↔ i + 1 = groups.length) := by
  rcases exists_eq_append_cons hi with ⟨front, group, back, rfl, rfl⟩
  have hall := h.misnumbered_readsAll hk hk' hr
  have hreports := h.misnumbered_violations hk hk'
  rcases run_reports.2 ⟨r, tree, _, _, hopen, hall, rfl, by simp [hlenient]⟩ with ⟨after, hrun⟩
  refine ⟨front, group, back, rfl, rfl, hall, _, after, hrun, by rw [hreports],
    by rw [hreports], ?_⟩
  rw [hreports, length_misnumberedReports_eq_one_iff, List.length_append, List.length_cons,
    ← List.length_eq_zero_iff]
  omega

/--
Main row `i` of a clean dataset takes the number `k` of a document that is not
there, and its related rows follow it. A lenient evaluation reports the number
of this row, and nothing of the rows before it or of its own related rows. But
the row lies ahead of the later ones: it takes their related rows as orphans,
and each later main row misses its children. So the number is all that is
reported exactly if the row is the last one.
-/
theorem misnumbered_row_orphans_later_rows {options options' : Options} {dir dir' : String}
    {session session' : Session} {result : Result} {r r' : Reader} {tree tree' : FileTree}
    {mains : List MainRow} {children inlines : List RelatedRow} {i k : Nat}
    (hopen : Reader.openDir dir options.headers session.tree = (.ok r, tree))
    (hr : r.Holds mains children inlines)
    (hrun : ∃ after, run options dir session = (.ok result, after))
    (hclean : result.violationCount = 0) (hi : i < mains.length) (hk : mains.length ≤ k)
    (hk' : k < word64)
    (hopen' : Reader.openDir dir' options'.headers session'.tree = (.ok r', tree'))
    (hr' : r'.Holds (mains.modify i (·.renumber k)) (renumbered .child i k children)
      (renumbered .inline i k inlines))
    (hlenient : options'.strict = false) :
    ∃ front group back, r.ReadsAll (front ++ group :: back) [] ∧ front.length = i ∧
      r'.ReadsAll (misnumberedGroups k front group back) [] ∧
      ∃ result' after, run options' dir' session' = (.ok result', after) ∧
        result'.violationCount = (misnumberedReports i k group back).length ∧
        result'.violations = (misnumberedReports i k group back).take options'.maxExamples ∧
        (result'.violationCount = 1 ↔ i + 1 = mains.length) := by
  rcases exists_clean_groups hopen hr hrun hclean with ⟨groups, h, hall, rfl, rfl, rfl⟩
  rw [List.length_map] at hi hk ⊢
  obtain ⟨front, group, back, rfl, hfront, hall', hrun'⟩ :=
    h.misnumbered_run hi hk hk' hopen' hr' hlenient
  exact ⟨front, group, back, hall, hfront, hall', hrun'⟩

/-! ## The first of two main rows -/

/-- A row of the main file. -/
def mainLine (index : Nat) : String :=
  DocId.main index ++ ",2020-02-29 23:59:59,true," ++
    "\"\x7b\"\"key\"\":\"\"AB1-KEY\"\",\"\"value\"\":\"\"12.50\"\",\"\"name\"\":\"\"x\"\"\x7d\"," ++
    "Lorem ipsum.,Lorem.,\"\x7b'a','b','c'\x7d\",Alert dbonly.\n"

/-- Rows of a related file that belong to one main row. -/
def relatedLines (kind : RelatedKind) (index count : Nat) : String :=
  String.join ((List.range count).map fun j =>
    DocId.related kind index j ++ "," ++ DocId.main index ++ ",Lorem.,doc.\n")

/-- Two main documents, each with five children and one inline document; the second has index 1. -/
def twoDocuments (first : Nat) : Files where
  main := .file (mainLine first ++ mainLine 1).toByteArray
  child := .file (relatedLines .child first 5 ++ relatedLines .child 1 5).toByteArray
  inline := .file (relatedLines .inline first 1 ++ relatedLines .inline 1 1).toByteArray

/-- A clean dataset of two documents, and the same with number 2 for the first of them. -/
theorem exists_twoDocuments :
    ∃ r tree r' tree' mains children inlines result,
      Reader.openDir "data" false (twoDocuments 0).dataTree = (.ok r, tree) ∧
      r.Holds mains children inlines ∧ mains.length = 2 ∧
      (∃ after, run {} "data" { tree := (twoDocuments 0).dataTree } = (.ok result, after)) ∧
      result.violationCount = 0 ∧
      Reader.openDir "data" false (twoDocuments 2).dataTree = (.ok r', tree') ∧
      r'.Holds (mains.modify 0 (·.renumber 2)) (renumbered .child 0 2 children)
        (renumbered .inline 0 2 inlines) := by
  -- Only the reading is evaluated; that there is nothing to report comes from the canonical form.
  have hok : (Reader.openDir "data" false (twoDocuments 0).dataTree).1.toOption.any (fun r =>
      (Reader.openDir "data" false (twoDocuments 2).dataTree).1.toOption.any fun r' =>
        r.main.all (·.toOption.isSome) && r.child.rest.all (·.toOption.isSome) &&
          r.inline.rest.all (·.toOption.isSome) &&
        decide ((goodRows r.main).length = 2 ∧ MainsInOrder (goodRows r.main) ∧
          AreBatches .child [(goodRows r.child.rest).take 5, (goodRows r.child.rest).drop 5] ∧
          AreBatches .inline [(goodRows r.inline.rest).take 1, (goodRows r.inline.rest).drop 1] ∧
          r'.main = ((goodRows r.main).modify 0 (·.renumber 2)).map .ok ∧
          r'.child.rest = (renumbered .child 0 2 (goodRows r.child.rest)).map .ok ∧
          r'.inline.rest = (renumbered .inline 0 2 (goodRows r.inline.rest)).map .ok)) = true := by
    decide +kernel
  rcases exists_ok_of_fst_any hok with ⟨r, tree, hopen, hok'⟩
  rcases exists_ok_of_fst_any hok' with ⟨r', tree', hopen', hr'⟩
  simp only [Bool.and_eq_true, decide_eq_true_eq] at hr'
  rcases hr' with ⟨⟨⟨hm, hc⟩, hi⟩, hlength, hmains, hchildren, hinlines, hm', hc', hi'⟩
  have hr : r.Holds _ _ _ := ⟨map_goodRows hm, map_goodRows hc, map_goodRows hi⟩
  have hbatches : ∀ {kind rows m}, AreBatches kind [List.take m rows, List.drop m rows] →
      InBatches kind (goodRows r.main).length rows := fun {kind rows m} h =>
    ⟨[rows.take m, rows.drop m], hlength.symm, h,
      by rw [List.flatten_cons, List.flatten_singleton, List.take_append_drop]⟩
  have hn : (goodRows r.main).length ≤ word64 := by
    rw [hlength]
    decide
  obtain ⟨result, hrun, hclean⟩ := @Canonical.exists_clean_run {} "data"
    { tree := (twoDocuments 0).dataTree } r tree _ _ _
    ⟨hmains, hbatches hchildren, hbatches hinlines⟩ hn hopen hr
  exact ⟨r, tree, r', tree', _, _, _, result, hopen, hr, hlength, hrun, hclean, hopen', hm', hc',
    hi'⟩

/-- The first of two documents is misnumbered, so its number is not the only violation. -/
theorem first_of_two_misnumbered :
    ∃ r tree r' tree' mains children inlines result,
      Reader.openDir "data" false (twoDocuments 0).dataTree = (.ok r, tree) ∧
      r.Holds mains children inlines ∧ mains.length = 2 ∧
      (∃ after, run {} "data" { tree := (twoDocuments 0).dataTree } = (.ok result, after)) ∧
      result.violationCount = 0 ∧
      Reader.openDir "data" false (twoDocuments 2).dataTree = (.ok r', tree') ∧
      r'.Holds (mains.modify 0 (·.renumber 2)) (renumbered .child 0 2 children)
        (renumbered .inline 0 2 inlines) ∧
      ∃ front group back, r.ReadsAll (front ++ group :: back) [] ∧ front.length = 0 ∧
        r'.ReadsAll (misnumberedGroups 2 front group back) [] ∧
        ∃ result' after, run { strict := false } "data" { tree := (twoDocuments 2).dataTree } =
            (.ok result', after) ∧
          result'.violationCount = (misnumberedReports 0 2 group back).length ∧
          result'.violations = (misnumberedReports 0 2 group back).take 20 ∧
          (result'.violationCount = 1 ↔ 0 + 1 = mains.length) := by
  rcases exists_twoDocuments with ⟨r, tree, r', tree', mains, children, inlines, result, hopen, hr,
    hlength, hrun, hclean, hopen', hr'⟩
  have hread := @misnumbered_row_orphans_later_rows {} { strict := false } "data" "data"
    { tree := (twoDocuments 0).dataTree } { tree := (twoDocuments 2).dataTree } result r r' tree
    tree' mains children inlines 0 2 hopen hr hrun hclean (by omega) (by omega) (by decide) hopen'
    hr' rfl
  exact ⟨r, tree, r', tree', mains, children, inlines, result, hopen, hr, hlength, hrun, hclean,
    hopen', hr', hread⟩

/-- The number of a row that is not the last is not all that is reported. -/
theorem misnumbered_row_cascades :
    ∃ r tree r' tree' mains children inlines result result',
      Reader.openDir "data" false (twoDocuments 0).dataTree = (.ok r, tree) ∧
      r.Holds mains children inlines ∧ mains.length = 2 ∧
      (∃ after, run {} "data" { tree := (twoDocuments 0).dataTree } = (.ok result, after)) ∧
      result.violationCount = 0 ∧
      Reader.openDir "data" false (twoDocuments 2).dataTree = (.ok r', tree') ∧
      r'.Holds (mains.modify 0 (·.renumber 2)) (renumbered .child 0 2 children)
        (renumbered .inline 0 2 inlines) ∧
      (∃ after, run { strict := false } "data" { tree := (twoDocuments 2).dataTree } =
        (.ok result', after)) ∧ result'.violationCount ≠ 1 := by
  rcases exists_twoDocuments with ⟨r, tree, r', tree', mains, children, inlines, result, hopen, hr,
    hlength, hrun, hclean, hopen', hr'⟩
  obtain ⟨groups, h, -, rfl, rfl, rfl⟩ := @exists_clean_groups {} "data"
    { tree := (twoDocuments 0).dataTree } result r tree mains children inlines hopen hr hrun hclean
  have hgroups : groups.length = 2 := (List.length_map _).symm.trans hlength
  obtain ⟨-, -, -, -, -, -, result', after, hrun', -, -, hone⟩ :=
    @Clean.misnumbered_run groups h 0 2 (by omega) (by omega) (by decide) { strict := false } "data"
      { tree := (twoDocuments 2).dataTree } r' tree' hopen' hr' rfl
  refine ⟨r, tree, r', tree', _, _, _, result, result', hopen, hr, hlength, hrun, hclean, hopen',
    hr', ⟨after, hrun'⟩, ?_⟩
  rw [ne_eq, hone, hgroups]
  decide

end Evaluation

end LinkedDocs
