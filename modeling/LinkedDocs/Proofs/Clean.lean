import LinkedDocs.Proofs.Grouping
import LinkedDocs.Proofs.Reports
import Mathlib.Data.List.Nodup

/-!
# Clean groups

A dataset without violations is read as groups that pass in their places, and
its files are the rows of these groups.

* `readsAll_files`: without orphans, the files are the rows of the groups.
* `Tally.Passes.ofDocument`: the ids of a group belong to one document.
* `Clean`, `exists_clean_groups`: the groups of a dataset without violations.
-/

namespace LinkedDocs.Evaluation

open Dataset

/-! ## Files and groups -/

/-- If no row is passed over as an orphan, a main row takes only rows that point at it. -/
theorem own_eq_taken {main : MainRow} {taken : List RelatedRow} {s t : RelatedStream}
    (ht : RelatedStream.Takes main taken s t) (h : standingRows main .behind taken = []) :
    standingRows main .own taken = taken := by
  refine List.filter_eq_self.2 fun row hrow => ?_
  have hbehind := List.filter_eq_nil_iff.1 h row hrow
  have hahead := ht.not_ahead row hrow
  cases hs : row.standing main <;> simp_all

/-- If no row was passed over as an orphan, the files are the rows of the groups. -/
theorem readsAll_files {r : Reader} {mains : List MainRow} {children inlines : List RelatedRow}
    {groups : List Group} {left : List RelatedRow} (hall : r.ReadsAll groups left)
    (hr : r.Holds mains children inlines) (horphans : ∀ g ∈ groups, g.orphans = [])
    (hleft : left = []) :
    groups.map Group.main = mains ∧ groups.flatMap Group.children = children ∧
      groups.flatMap Group.inlines = inlines ∧
      ∀ g ∈ groups, ∀ kind, ∀ row ∈ g.related kind, row.parentId = g.main.id := by
  induction hall generalizing mains children inlines with
  | done hnone hremaining =>
    rcases Reader.nextGroup_none hnone with ⟨hmain, rfl⟩
    rcases Reader.remaining_ok hremaining with ⟨children', inlines', happend, -, hc, hi, -⟩
    rw [hleft, eq_comm, List.append_eq_nil_iff] at happend
    rcases happend with ⟨rfl, rfl⟩
    rw [hr.main, List.map_eq_nil_iff] at hmain
    rw [hr.child, List.map_nil, List.map_eq_nil_iff] at hc
    rw [hr.inline, List.map_nil, List.map_eq_nil_iff] at hi
    subst hmain hc hi
    simp
  | @group r r' group groups left hgroup hrest ih =>
    rcases Reader.nextGroup_ok hgroup with ⟨hmain, takenc, takeni, htc, hti, hown, hown', heq⟩
    rcases htc.good hr.child with ⟨leftc, rfl, hc⟩
    rcases hti.good hr.inline with ⟨lefti, rfl, hi⟩
    rcases List.forall_mem_cons.1 horphans with ⟨hfirst, horphans⟩
    rw [hfirst, eq_comm, List.append_eq_nil_iff] at heq
    rcases mains with - | ⟨main, mains⟩
    · rw [hr.main] at hmain
      simp at hmain
    rw [hr.main, List.map_cons, List.cons.injEq, Except.ok.injEq] at hmain
    rcases hmain with ⟨rfl, hmain⟩
    -- No row is passed over, so what a group took is what it hands out.
    rcases ih ⟨hmain.symm, hc, hi⟩ horphans hleft with ⟨rfl, rfl, rfl, hparents⟩
    refine ⟨rfl, ?_, ?_, List.forall_mem_cons.2 ⟨fun kind row hrow => ?_, hparents⟩⟩
    · rw [List.flatMap_cons, hown, own_eq_taken htc heq.1]
    · rw [List.flatMap_cons, hown', own_eq_taken hti heq.2]
    · rw [← RelatedRow.standing_eq_own_iff]
      cases kind with
      | child =>
        rw [Group.related, hown] at hrow
        exact of_decide_eq_true (List.mem_filter.1 hrow).2
      | inline =>
        rw [Group.related, hown'] at hrow
        exact of_decide_eq_true (List.mem_filter.1 hrow).2

/-! ## Groups that pass -/

/-- A main row in its place is the parent of its place. -/
theorem Tally.parentIndex_eq {group : Group} {i : Nat} (h : group.main.id = DocId.main i) :
    Tally.parentIndex group i = i := by
  rw [parentIndex, MainRow.index?, h, DocId.mainIndex?_main_eq]
  split <;> rfl

/-- In a group that passes, the batch of either kind is sound. -/
theorem Tally.Passes.batch {group : Group} {i : Nat} (h : Passes group i) (kind : RelatedKind) :
    SoundBatch kind i (group.related kind) := by
  have hindex := parentIndex_eq h.id_eq
  cases kind with
  | child => exact hindex ▸ h.children
  | inline => exact hindex ▸ h.inlines

/-- As its ids are distinct, a sound batch has no more rows than a 32-bit counter has values. -/
theorem SoundBatch.length_le {kind : RelatedKind} {parent : Nat} {rows : List RelatedRow}
    (h : SoundBatch kind parent rows) (hids : (rows.map (·.id)).Nodup) :
    rows.length ≤ UInt32.size := by
  by_contra hlong
  have hpos : 0 < UInt32.size := by decide
  -- The counter wraps around, and the id of the first row comes again.
  have hwrap : word32 UInt32.size = word32 0 := Nat.mod_self _
  have hne := List.pairwise_iff_getElem.1 hids 0 UInt32.size (by simp; omega) (by simp; omega) hpos
  rw [List.getElem_map, List.getElem_map, h.id_eq, h.id_eq, hwrap] at hne
  exact hne rfl

/-- An id of a batch belongs to the main document of the batch. -/
theorem SoundBatch.ofDocument {kind : RelatedKind} {parent : Nat} {rows : List RelatedRow}
    (h : SoundBatch kind parent rows) {id : String} (hid : id ∈ rows.map (·.id)) :
    DocId.OfDocument parent id := by
  rcases List.mem_map.1 hid with ⟨row, hrow, rfl⟩
  rcases List.getElem_of_mem hrow with ⟨j, hj, rfl⟩
  exact .inr ⟨kind, word32 j, h.id_eq j hj⟩

/-- The ids of a group belong to one document if its rows have ids of that document. -/
theorem Tally.ofDocument_of_mem {group : Group} {i : Nat} (hmain : group.main.id = DocId.main i)
    (hbatch : ∀ kind, SoundBatch kind i (group.related kind)) {id : String}
    (hid : id ∈ groupIds group) : DocId.OfDocument i id := by
  rw [groupIds, List.mem_append, List.mem_singleton, List.mem_append] at hid
  rcases hid with rfl | hid | hid
  · exact .inl hmain
  · exact (hbatch .child).ofDocument hid
  · exact (hbatch .inline).ofDocument hid

/-- The ids of a group that passes belong to the document of its number. -/
theorem Tally.Passes.ofDocument {group : Group} {i : Nat} (h : Passes group i) {id : String}
    (hid : id ∈ groupIds group) : DocId.OfDocument i id :=
  ofDocument_of_mem h.id_eq h.batch hid

/-! ## Datasets without violations -/

/-- The groups pass in their places, no id repeats, and each row is that of its group. -/
structure Clean (groups : List Group) : Prop where
  passes : ∀ i (h : i < groups.length), Tally.Passes groups[i] i
  nodup : (groups.flatMap Tally.groupIds).Nodup
  parent_eq : ∀ g ∈ groups, ∀ kind, ∀ row ∈ g.related kind, row.parentId = g.main.id

/-- The files of a dataset without violations are the rows of clean groups. -/
theorem clean_of_violationsOf {r : Reader} {mains : List MainRow}
    {children inlines : List RelatedRow} {groups : List Group} {left : List RelatedRow}
    (hall : r.ReadsAll groups left) (hr : r.Holds mains children inlines)
    (hnil : violationsOf groups left = []) :
    Clean groups ∧ left = [] ∧ groups.map Group.main = mains ∧
      groups.flatMap Group.children = children ∧ groups.flatMap Group.inlines = inlines := by
  rcases violationsOf_eq_nil_iff.1 hnil with ⟨hpasses, hnodup, hleft⟩
  have horphans : ∀ g ∈ groups, g.orphans = [] := by
    intro g hg
    rcases List.getElem_of_mem hg with ⟨i, hi, rfl⟩
    exact (hpasses i hi).orphans
  obtain ⟨hmains, hchildren, hinlines, hparents⟩ := readsAll_files hall hr horphans hleft
  exact ⟨⟨hpasses, hnodup, hparents⟩, hleft, hmains, hchildren, hinlines⟩

/-- A dataset with an evaluation without violations is read as clean groups. -/
theorem exists_clean_groups {options : Options} {dir : String} {session : Session}
    {result : Result} {r : Reader} {tree : FileTree} {mains : List MainRow}
    {children inlines : List RelatedRow}
    (hopen : Reader.openDir dir options.headers session.tree = (.ok r, tree))
    (hr : r.Holds mains children inlines)
    (hrun : ∃ after, run options dir session = (.ok result, after))
    (hclean : result.violationCount = 0) :
    ∃ groups, Clean groups ∧ r.ReadsAll groups [] ∧ groups.map Group.main = mains ∧
      groups.flatMap Group.children = children ∧ groups.flatMap Group.inlines = inlines := by
  rcases run_reports.1 hrun with ⟨r', tree', groups, left, hopen', hall, rfl, -⟩
  rw [hopen] at hopen'
  cases hopen'
  obtain ⟨h, rfl, hfiles⟩ := clean_of_violationsOf hall hr (List.length_eq_zero_iff.1 hclean)
  exact ⟨groups, h, hall, hfiles⟩

namespace Clean

variable {groups : List Group}

/-- In a clean dataset every group stands at its place. -/
theorem inPlace (h : Clean groups) (i : Nat) (hi : i < groups.length) : InPlace groups[i] i where
  id_eq := (h.passes i hi).id_eq
  parent_eq := h.parent_eq _ (List.getElem_mem hi)
  orphans := (h.passes i hi).orphans

/-- The first main row of a dataset without violations has the first id. -/
theorem first_id (h : Clean groups) {main : MainRow} {mains : List MainRow}
    (hmains : groups.map Group.main = main :: mains) : main.id = DocId.main 0 := by
  obtain ⟨group, rest, rfl, rfl, -⟩ := List.map_eq_cons_iff.1 hmains
  exact (h.passes 0 (Nat.zero_lt_succ _)).id_eq

variable {front back : List Group} {group : Group}

/-- The groups around one of them stand in their places. -/
theorem inPlace_around (h : Clean (front ++ group :: back)) :
    (∀ i (hi : i < front.length), InPlace front[i] i) ∧ InPlace group front.length ∧
      ∀ i (hi : i < back.length), InPlace back[i] (front.length + 1 + i) :=
  forall_getElem_append_cons (P := fun i g => InPlace g i) h.inPlace

/-- The groups around one of them pass. -/
theorem passes_around (h : Clean (front ++ group :: back)) :
    (∀ i (hi : i < front.length), Tally.Passes front[i] i) ∧ Tally.Passes group front.length ∧
      ∀ i (hi : i < back.length), Tally.Passes back[i] (front.length + 1 + i) :=
  forall_getElem_append_cons (P := fun i g => Tally.Passes g i) h.passes

/-- The ids of a batch are distinct. -/
theorem nodup_related (h : Clean groups) {g : Group} (hg : g ∈ groups) (kind : RelatedKind) :
    ((g.related kind).map (·.id)).Nodup := by
  have hnodup := (List.nodup_flatMap.1 h.nodup).1 g hg
  rw [Tally.groupIds, List.nodup_append, List.nodup_append] at hnodup
  cases kind with
  | child => exact hnodup.2.1.1
  | inline => exact hnodup.2.1.2.1

end Clean

end LinkedDocs.Evaluation
