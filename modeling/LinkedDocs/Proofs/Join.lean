import LinkedDocs.Proofs.Ids
import LinkedDocs.Proofs.Lockstep

/-!
# Reading in lockstep is a join

If the main rows ascend and the parents of related rows do not descend, reading
in lockstep gives each main row all the related rows that point at it, and
leaves over those that point at none. Parents that are no main id may stand
anywhere.

* `Takes.own_eq`, `Takes.unclaimed_eq`: one main row and one related file.
* `ReadsAll.join`: the whole run, by induction over its groups.
* `lockstep_eq_join`: the groups are those of the plain join.
-/

namespace LinkedDocs.Dataset

open Text

/-- The related rows of a list that point at a main row. -/
def pointingAt (main : MainRow) (rows : List RelatedRow) : List RelatedRow :=
  rows.filter fun row => row.parentId = main.id

/-- The related rows of a list that point at no main row. -/
def unclaimed (mains : List MainRow) (rows : List RelatedRow) : List RelatedRow :=
  rows.filter fun row => ∀ main ∈ mains, row.parentId ≠ main.id

/-- The main rows have the ids of these indices, which ascend. -/
structure Ascending (mains : List MainRow) (indices : List Nat) : Prop where
  ids : mains.map (·.id) = indices.map DocId.main
  below : ∀ n ∈ indices, n < word64
  ascend : indices.Pairwise (· < ·)

/-- Each parent is a main id, in an order that does not descend, or cannot be one at all. -/
structure ParentsOrdered (rows : List RelatedRow) : Prop where
  parents : ∀ row ∈ rows,
    row.parentIndex? = none ∨ ∃ m, m < word64 ∧ row.parentId = DocId.main m
  ordered : (rows.filterMap RelatedRow.parentIndex?).Pairwise (· ≤ ·)

/-- The main rows behind the first ascend as well. -/
theorem Ascending.tail {main : MainRow} {mains : List MainRow} {n : Nat} {indices : List Nat}
    (h : Ascending (main :: mains) (n :: indices)) : Ascending mains indices where
  ids := (List.cons.inj h.ids).2
  below m hm := h.below m (List.mem_cons_of_mem _ hm)
  ascend := (List.pairwise_cons.1 h.ascend).2

/-- Each main row has an index. -/
theorem Ascending.exists_index {mains : List MainRow} {indices : List Nat}
    (h : Ascending mains indices) {main : MainRow} (hmain : main ∈ mains) :
    ∃ n ∈ indices, main.id = DocId.main n := by
  have hmem : main.id ∈ indices.map DocId.main := by
    rw [← h.ids]
    exact List.mem_map_of_mem hmain
  rcases List.mem_map.1 hmem with ⟨n, hn, hid⟩
  exact ⟨n, hn, hid.symm⟩

/-! ## How rows stand to a main row -/

section

variable {main : MainRow} {n : Nat}

/-- The index of a main row is read from its id. -/
theorem index?_of_id (hid : main.id = DocId.main n) (hn : n < word64) : main.index? = some n := by
  rw [MainRow.index?, hid, DocId.mainIndex?_main hn]

/-- A related row is the own row of the main row that it names. -/
theorem RelatedRow.standing_eq_own_iff {row : RelatedRow} :
    row.standing main = .own ↔ row.parentId = main.id := by
  by_cases hid : row.parentId = main.id
  · simp [RelatedRow.standing, hid]
  · rw [RelatedRow.standing, if_neg hid]
    constructor
    · intro h
      split at h
      · cases h
      · split at h <;> cases h
      · cases h
    · intro h
      exact absurd h hid

/-- A row that is behind a main row points at no main row from there on. -/
theorem RelatedRow.index_lt_of_behind {row : RelatedRow} {m : Nat}
    (hid : main.id = DocId.main n) (hn : n < word64) (h : row.standing main = .behind)
    (hm : m < word64) (hparent : row.parentId = DocId.main m) : m < n := by
  rw [RelatedRow.standing, index?_of_id hid hn, RelatedRow.parentIndex?, hparent,
    DocId.mainIndex?_main hm] at h
  split at h
  · simp at h
  · by_contra hlt
    simp [hlt] at h

/-- A row that is ahead of a main row has an index above its own. -/
theorem RelatedRow.lt_index_of_ahead {row : RelatedRow} (hid : main.id = DocId.main n)
    (hn : n < word64)
    (hrow : row.parentIndex? = none ∨ ∃ m, m < word64 ∧ row.parentId = DocId.main m)
    (h : row.standing main = .ahead) : ∃ m, row.parentIndex? = some m ∧ n < m := by
  rw [RelatedRow.standing, index?_of_id hid hn] at h
  split at h
  · simp at h
  rename_i hne
  rcases hrow with hnone | ⟨m, hm, hparent⟩
  · simp [hnone] at h
  -- The parent is a main id, neither that of the main row nor one before it.
  have hindex : row.parentIndex? = some m := by
    rw [RelatedRow.parentIndex?, hparent, DocId.mainIndex?_main hm]
  rw [hindex] at h
  have hle : ¬ m < n := by
    intro hlt
    simp [hlt] at h
  have hmn : m ≠ n := by
    rintro rfl
    exact hne (by rw [hparent, hid])
  exact ⟨m, hindex, by omega⟩

end

/-! ## One main row and one related file -/

/-- The rows that are left are ordered as well. -/
theorem ParentsOrdered.of_append {rows left : List RelatedRow}
    (h : ParentsOrdered (rows ++ left)) : ParentsOrdered left where
  parents row hrow := h.parents row (List.mem_append_right _ hrow)
  ordered := by
    have := h.ordered
    rw [List.filterMap_append] at this
    exact (List.pairwise_append.1 this).2.1

/-- Behind a row that is ahead of a main row, none points at it. -/
theorem ne_id_of_ends {main : MainRow} {n : Nat} {left : List RelatedRow}
    (hid : main.id = DocId.main n) (hn : n < word64) (hleft : ParentsOrdered left)
    (hends : ∀ row rest, left = row :: rest → row.standing main = .ahead) :
    ∀ row ∈ left, row.parentId ≠ main.id := by
  intro row hrow heq
  cases left with
  | nil => simp at hrow
  | cons head rest =>
    -- The first row that is left points ahead, and no row behind it points further back.
    obtain ⟨m, hindex, hlt⟩ := RelatedRow.lt_index_of_ahead hid hn
      (hleft.parents head List.mem_cons_self) (hends head rest rfl)
    have hrowIndex : row.parentIndex? = some n := by
      rw [RelatedRow.parentIndex?, heq, hid, DocId.mainIndex?_main hn]
    have hordered := hleft.ordered
    rw [List.filterMap_cons_some hindex, List.pairwise_cons] at hordered
    rcases List.mem_cons.1 hrow with rfl | hrest
    · rw [hindex] at hrowIndex
      obtain rfl := Option.some.inj hrowIndex
      exact absurd hlt (Nat.lt_irrefl _)
    · have := hordered.1 n (List.mem_filterMap.2 ⟨row, hrest, hrowIndex⟩)
      omega

namespace RelatedStream

variable {main : MainRow} {n : Nat} {taken left : List RelatedRow} {s t : RelatedStream}

/-- A main row leaves rows from the first one that is ahead of it. -/
theorem Takes.left_ends (ht : Takes main taken s t) (hleft : t.rest = left.map .ok) :
    ∀ row rest, left = row :: rest → row.standing main = .ahead := by
  rintro row rest rfl
  exact ht.ends row (rest.map .ok) hleft

/-- A main row gets all rows that point at it. -/
theorem Takes.own_eq (ht : Takes main taken s t) (hleft : t.rest = left.map .ok)
    (hid : main.id = DocId.main n) (hn : n < word64) (hordered : ParentsOrdered (taken ++ left)) :
    standingRows main .own taken = pointingAt main (taken ++ left) := by
  have hne := ne_id_of_ends hid hn hordered.of_append (ht.left_ends hleft)
  have hnil : pointingAt main left = [] :=
    List.filter_eq_nil_iff.2 fun row hrow => by simpa using hne row hrow
  rw [pointingAt, List.filter_append, ← pointingAt, ← pointingAt, hnil, List.append_nil]
  apply List.filter_congr
  intro row _
  simp [RelatedRow.standing_eq_own_iff]

/-- No row that is taken for a main row points at a later one. -/
theorem Takes.ne_later (ht : Takes main taken s t) (hid : main.id = DocId.main n)
    (hn : n < word64) {later : MainRow} {n' : Nat} (hid' : later.id = DocId.main n')
    (hn' : n' < word64) (hlt : n < n') : ∀ row ∈ taken, row.parentId ≠ later.id := by
  intro row hrow heq
  cases hstanding : row.standing main with
  | own =>
    rw [RelatedRow.standing_eq_own_iff, heq, hid, hid'] at hstanding
    exact absurd (DocId.main_injective hstanding) (Nat.ne_of_gt hlt)
  | behind =>
    have := RelatedRow.index_lt_of_behind hid hn hstanding hn' (heq.trans hid')
    omega
  | ahead => exact ht.not_ahead row hrow hstanding

/-- The rows that point at a later main row are all among those that are left. -/
theorem Takes.pointingAt_left (ht : Takes main taken s t) (hid : main.id = DocId.main n)
    (hn : n < word64) {later : MainRow} {n' : Nat} (hid' : later.id = DocId.main n')
    (hn' : n' < word64) (hlt : n < n') :
    pointingAt later (taken ++ left) = pointingAt later left := by
  have hnil : pointingAt later taken = [] :=
    List.filter_eq_nil_iff.2 fun row hrow => by
      simpa using ht.ne_later hid hn hid' hn' hlt row hrow
  rw [pointingAt, List.filter_append, ← pointingAt, hnil, List.nil_append, pointingAt]

/-- The orphans that are passed over point at no main row, and the others are left. -/
theorem Takes.unclaimed_eq {mains : List MainRow} {indices : List Nat}
    (ht : Takes main taken s t) (hleft : t.rest = left.map .ok)
    (hmains : Ascending (main :: mains) (n :: indices))
    (hordered : ParentsOrdered (taken ++ left)) :
    unclaimed (main :: mains) (taken ++ left) =
      standingRows main .behind taken ++ unclaimed mains left := by
  have hid : main.id = DocId.main n := (List.cons.inj hmains.ids).1
  have hn : n < word64 := hmains.below n List.mem_cons_self
  have hne := ne_id_of_ends hid hn hordered.of_append (ht.left_ends hleft)
  rw [unclaimed, List.filter_append]
  congr 1
  · -- a row that was taken points at this main row or at none
    apply List.filter_congr
    intro row hrow
    have hlater : ∀ later ∈ mains, row.parentId ≠ later.id := by
      intro later hlater
      rcases hmains.tail.exists_index hlater with ⟨n', hn', hid'⟩
      exact ht.ne_later hid hn hid' (hmains.below n' (List.mem_cons_of_mem _ hn'))
        ((List.pairwise_cons.1 hmains.ascend).1 n' hn') row hrow
    have hahead := ht.not_ahead row hrow
    have hown : row.standing main = .own ↔ row.parentId = main.id :=
      RelatedRow.standing_eq_own_iff
    have hcons : (∀ m ∈ main :: mains, row.parentId ≠ m.id) ↔ row.parentId ≠ main.id := by
      rw [List.forall_mem_cons]
      exact and_iff_left hlater
    rw [decide_eq_decide, hcons, ne_eq, ← hown]
    cases hs : row.standing main <;> simp_all
  · apply List.filter_congr
    intro row hrow
    rw [decide_eq_decide, List.forall_mem_cons]
    exact and_iff_right (hne row hrow)

end RelatedStream

/-! ## The whole run -/

namespace Reader

/-- What was read is the join of the main rows with the rows of each related file. -/
structure Joins (mains : List MainRow) (children inlines : List RelatedRow)
    (groups : List Group) (left : List RelatedRow) : Prop where
  main : groups.map Group.main = mains
  ownChildren : ∀ g ∈ groups, g.children = pointingAt g.main children
  ownInlines : ∀ g ∈ groups, g.inlines = pointingAt g.main inlines
  orphans : (groups.flatMap Group.orphans ++ left).Perm
    (unclaimed mains children ++ unclaimed mains inlines)

theorem joins_nil {children inlines : List RelatedRow} : Joins [] children inlines []
    (children ++ inlines) where
  main := rfl
  ownChildren := by simp
  ownInlines := by simp
  orphans := by simp [unclaimed]

/-- Reading good files to the end joins them. -/
theorem ReadsAll.join {r : Reader} {groups : List Group} {left : List RelatedRow}
    {mains : List MainRow} {indices : List Nat} {children inlines : List RelatedRow}
    (h : r.ReadsAll groups left) (hr : r.Holds mains children inlines)
    (hmains : Ascending mains indices) (hchildren : ParentsOrdered children)
    (hinlines : ParentsOrdered inlines) : Joins mains children inlines groups left := by
  induction h generalizing mains indices children inlines with
  | done hnone hleft =>
    rcases nextGroup_none hnone with ⟨hmain, rfl⟩
    obtain rfl : mains = [] := by simpa [hr.main] using hmain
    rcases remaining_ok hleft with ⟨children', inlines', rfl, -, hc, hi, -⟩
    rw [hr.child] at hc
    rw [hr.inline] at hi
    rw [← List.map_injective_iff.2 ok_injective hc, ← List.map_injective_iff.2 ok_injective hi]
    exact joins_nil
  | @group r r' group groups left hgroup hrest ih =>
    rcases nextGroup_ok hgroup with ⟨hmain, takenc, takeni, htc, hti, hown, hown', horphans⟩
    rcases htc.good hr.child with ⟨leftc, rfl, hc⟩
    rcases hti.good hr.inline with ⟨lefti, rfl, hi⟩
    rw [hr.main] at hmain
    rcases mains with - | ⟨main, mains⟩
    · simp at hmain
    rw [List.map_cons, List.cons.injEq, Except.ok.injEq] at hmain
    rcases hmain with ⟨rfl, hmain⟩
    rcases indices with - | ⟨n, indices⟩
    · simpa using hmains.ids
    have hid : group.main.id = DocId.main n := (List.cons.inj hmains.ids).1
    have hn : n < word64 := hmains.below n List.mem_cons_self
    have hjoin := ih ⟨hmain.symm, hc, hi⟩ hmains.tail hchildren.of_append hinlines.of_append
    have hlater : ∀ g ∈ groups, ∃ n', g.main.id = DocId.main n' ∧ n' < word64 ∧ n < n' := by
      intro g hg
      have hmem : g.main ∈ mains := hjoin.main ▸ List.mem_map_of_mem hg
      rcases hmains.tail.exists_index hmem with ⟨n', hn', hid'⟩
      exact ⟨n', hid', hmains.below n' (List.mem_cons_of_mem _ hn'),
        (List.pairwise_cons.1 hmains.ascend).1 n' hn'⟩
    refine ⟨by rw [List.map_cons, hjoin.main], List.forall_mem_cons.2 ⟨?_, ?_⟩,
      List.forall_mem_cons.2 ⟨?_, ?_⟩, ?_⟩
    · rw [hown, htc.own_eq hc hid hn hchildren]
    · intro g hg
      rcases hlater g hg with ⟨n', hid', hn', hlt⟩
      rw [hjoin.ownChildren g hg, htc.pointingAt_left hid hn hid' hn' hlt]
    · rw [hown', hti.own_eq hi hid hn hinlines]
    · intro g hg
      rcases hlater g hg with ⟨n', hid', hn', hlt⟩
      rw [hjoin.ownInlines g hg, hti.pointingAt_left hid hn hid' hn' hlt]
    · rw [htc.unclaimed_eq hc hmains hchildren, hti.unclaimed_eq hi hmains hinlines,
        List.flatMap_cons, horphans]
      -- The orphans of the group come first on one side, and with their own file on the other.
      calc (standingRows group.main .behind takenc ++ standingRows group.main .behind takeni ++
              groups.flatMap Group.orphans ++ left)
          = standingRows group.main .behind takenc ++ (standingRows group.main .behind takeni ++
              (groups.flatMap Group.orphans ++ left)) := by simp only [List.append_assoc]
        List.Perm _ (standingRows group.main .behind takenc ++
              (standingRows group.main .behind takeni ++
                (unclaimed mains leftc ++ unclaimed mains lefti))) :=
            (hjoin.orphans.append_left _).append_left _
        List.Perm _ (standingRows group.main .behind takenc ++ (unclaimed mains leftc ++
              (standingRows group.main .behind takeni ++ unclaimed mains lefti))) :=
            List.perm_append_comm_assoc _ _ _ |>.append_left _
        _ = _ := by simp only [List.append_assoc]

end Reader

/--
If the ids of the main rows ascend and the parents of the related rows are main
ids that do not descend, or no main ids at all, reading in lockstep to the end
gives each main row the list of all related rows that point at it, in the order
of their file; the orphans and the rows left over are those that point at none.
-/
theorem lockstep_eq_join {r : Reader} {mains : List MainRow} {indices : List Nat}
    {children inlines : List RelatedRow} (hr : r.Holds mains children inlines)
    (hmains : Ascending mains indices) (hchildren : ParentsOrdered children)
    (hinlines : ParentsOrdered inlines) :
    ∃ groups left, r.ReadsAll groups left ∧ groups.map Group.main = mains ∧
      (∀ g ∈ groups, g.children = children.filter (fun row => row.parentId = g.main.id) ∧
        g.inlines = inlines.filter (fun row => row.parentId = g.main.id)) ∧
      (groups.flatMap Group.orphans ++ left).Perm
        ((children ++ inlines).filter fun row => ∀ main ∈ mains, row.parentId ≠ main.id) := by
  rcases Reader.exists_readsAll hr with ⟨groups, left, hall⟩
  have hjoin := hall.join hr hmains hchildren hinlines
  refine ⟨groups, left, hall, hjoin.main,
    fun g hg => ⟨hjoin.ownChildren g hg, hjoin.ownInlines g hg⟩, ?_⟩
  rw [List.filter_append]
  exact hjoin.orphans

/-- A main row of a given index. -/
def mainNumbered (index : Nat) : MainRow where
  rowIndex := 0
  id := DocId.main index
  date := ""
  deleted := ""
  nested := ""
  nonSearchable := ""
  text := ""
  textArray := ""
  ignoreMe := ""

/-- A child that points at a text. -/
def childOf (rowIndex : Nat) (parentId : String) : RelatedRow :=
  ⟨.child, rowIndex, DocId.related .child 0 rowIndex, parentId, "", ""⟩

/-- Indices with gaps, the last of seven digits. -/
def gappedMains : List MainRow := [1, 4, 1000000].map mainNumbered

/-- Children of documents that are missing, of two that are there, and of none. -/
def strayChildren : List RelatedRow :=
  [childOf 0 "ID000000", childOf 1 "ID000001", childOf 2 "stray", childOf 3 "ID000001",
    childOf 4 "ID999999", childOf 5 "ID1000000"]

/-- Main rows with a gap, and children of which one names no document. -/
theorem gapped_mains_joined :
    ∃ groups left,
      (⟨gappedMains.map .ok, { feed := strayChildren.map .ok }, { feed := [] }⟩ :
        Reader).ReadsAll groups left ∧ groups.map Group.main = gappedMains ∧
      (∀ g ∈ groups, g.children = strayChildren.filter (fun row => row.parentId = g.main.id) ∧
        g.inlines = [].filter (fun row => row.parentId = g.main.id)) ∧
      (groups.flatMap Group.orphans ++ left).Perm
        ((strayChildren ++ []).filter fun row => ∀ main ∈ gappedMains, row.parentId ≠ main.id) := by
  have hmains : Ascending gappedMains [1, 4, 1000000] :=
    ⟨by rfl, by decide, by decide⟩
  have hchildren : ParentsOrdered strayChildren := by
    refine ⟨?_, by decide +kernel⟩
    have hparents : ∀ row ∈ strayChildren, row.parentIndex? = none ∨
        ∃ m ∈ [0, 1, 999999, 1000000], m < word64 ∧ row.parentId = DocId.main m := by
      decide +kernel
    intro row hrow
    rcases hparents row hrow with hnone | ⟨m, -, hm⟩
    · exact .inl hnone
    · exact .inr ⟨m, hm⟩
  have hinlines : ParentsOrdered [] := ⟨by simp, by simp⟩
  exact lockstep_eq_join ⟨rfl, rfl, rfl⟩ hmains hchildren hinlines

end LinkedDocs.Dataset
