import LinkedDocs.Proofs.Accounting
import LinkedDocs.Proofs.Reports

/-!
# What is read, as a function of the rows

Where no row is bad, the groups and the rows left over are a function of the
three lists of rows. Only the ids and the parent ids decide which rows go where:
rows with the other columns blanked out are read as the same groups, blanked out.

* `groupsOf`, `leftOf`: the function; `ReadsAll.eq_groupsOf` says that it is read.
* `groupsOf_keyOnly`: what is read of blanked rows.
* `Rows.keyOnly_eq`: datasets with equal keys are equal once they are blanked out.
* `Rows.run_ok_iff`, `Rows.exists_result_iff`: the result of an evaluation of rows.
-/

namespace LinkedDocs.Dataset

/-! ## One main row -/

/-- The rows before the first one that belongs to a later main row. -/
def takenBy (main : MainRow) (rows : List RelatedRow) : List RelatedRow :=
  rows.takeWhile fun row => row.standing main ≠ .ahead

/-- The rows from the first one on that belongs to a later main row. -/
def leftBy (main : MainRow) (rows : List RelatedRow) : List RelatedRow :=
  rows.dropWhile fun row => row.standing main ≠ .ahead

/-- What a step of the reader takes from a good file, and what it leaves. -/
theorem RelatedStream.Takes.eq_takenBy {main : MainRow} {taken rows : List RelatedRow}
    {s t : RelatedStream} (ht : Takes main taken s t) (h : s.rest = rows.map .ok) :
    taken = takenBy main rows ∧ t.rest = (leftBy main rows).map .ok := by
  obtain ⟨left, rfl, hleft⟩ := ht.good h
  have htaken : ∀ row ∈ taken, decide (row.standing main ≠ .ahead) = true := by
    intro row hrow
    exact decide_eq_true (ht.not_ahead row hrow)
  unfold takenBy leftBy
  rw [List.takeWhile_append_of_pos htaken, List.dropWhile_append_of_pos htaken]
  cases left with
  | nil => exact ⟨(List.append_nil _).symm, hleft⟩
  | cons row left =>
    have hahead : row.standing main = .ahead := ht.ends row _ hleft
    have hstop : decide (row.standing main ≠ .ahead) = false := by
      rw [hahead]
      rfl
    rw [List.takeWhile_cons, List.dropWhile_cons, hstop]
    exact ⟨(List.append_nil _).symm, hleft⟩

/-! ## All main rows -/

/-- The group of a main row with these related rows still to come. -/
def groupOf (main : MainRow) (children inlines : List RelatedRow) : Group where
  main
  children := standingRows main .own (takenBy main children)
  inlines := standingRows main .own (takenBy main inlines)
  orphans := standingRows main .behind (takenBy main children) ++
    standingRows main .behind (takenBy main inlines)

/-- The groups of main rows. -/
def groupsOf : List MainRow → List RelatedRow → List RelatedRow → List Group
  | [], _, _ => []
  | main :: mains, children, inlines =>
    groupOf main children inlines :: groupsOf mains (leftBy main children) (leftBy main inlines)

/-- The related rows that no main row takes. -/
def leftOf : List MainRow → List RelatedRow → List RelatedRow → List RelatedRow
  | [], children, inlines => children ++ inlines
  | main :: mains, children, inlines => leftOf mains (leftBy main children) (leftBy main inlines)

/-- Good files are read as the groups of their rows. -/
theorem Reader.ReadsAll.eq_groupsOf {r : Reader} {groups : List Group} {left : List RelatedRow}
    {mains : List MainRow} {children inlines : List RelatedRow} (hall : r.ReadsAll groups left)
    (h : r.Holds mains children inlines) :
    groups = groupsOf mains children inlines ∧ left = leftOf mains children inlines := by
  induction hall generalizing mains children inlines with
  | done hnone hleft =>
    obtain ⟨hmain, rfl⟩ := nextGroup_none hnone
    obtain ⟨children', inlines', rfl, -, hc, hi, -⟩ := remaining_ok hleft
    have hmains : mains = [] := by
      rw [h.main, List.map_eq_nil_iff] at hmain
      exact hmain
    have hchildren := List.map_injective_iff.2 ok_injective (h.child.symm.trans hc)
    have hinlines := List.map_injective_iff.2 ok_injective (h.inline.symm.trans hi)
    rw [hmains, hchildren, hinlines]
    exact ⟨rfl, rfl⟩
  | @group r r' group groups left hgroup _ ih =>
    obtain ⟨hmain, takenc, takeni, htc, hti, hown, hown', horphans⟩ := nextGroup_ok hgroup
    rcases mains with - | ⟨main, mains⟩
    · rw [h.main] at hmain
      cases hmain
    rw [h.main, List.map_cons, List.cons.injEq, Except.ok.injEq] at hmain
    obtain ⟨rfl, hmains⟩ := hmain
    obtain ⟨rfl, hc⟩ := htc.eq_takenBy h.child
    obtain ⟨rfl, hi⟩ := hti.eq_takenBy h.inline
    obtain ⟨rfl, rfl⟩ := ih ⟨hmains.symm, hc, hi⟩
    refine ⟨?_, rfl⟩
    have hfirst : group = groupOf group.main children inlines := by
      rw [groupOf, ← hown, ← hown', ← horphans]
    rw [groupsOf, ← hfirst]

section

variable {mains : List MainRow} {children inlines : List RelatedRow}

/-- There is one group for each main row, in order. -/
theorem map_main_groupsOf (mains : List MainRow) (children inlines : List RelatedRow) :
    (groupsOf mains children inlines).map Group.main = mains := by
  induction mains generalizing children inlines with
  | nil => rfl
  | cons main mains ih => rw [groupsOf, List.map_cons, ih, groupOf]

/-- The rows of a group of a kind are rows of the file of that kind. -/
theorem mem_of_mem_groupsOf {group : Group} (hgroup : group ∈ groupsOf mains children inlines) :
    (∀ row ∈ group.children, row ∈ children) ∧ ∀ row ∈ group.inlines, row ∈ inlines := by
  induction mains generalizing children inlines with
  | nil => cases hgroup
  | cons main mains ih =>
    have htaken : ∀ rows row, row ∈ standingRows main .own (takenBy main rows) → row ∈ rows := by
      intro rows row hrow
      exact (List.takeWhile_sublist _).subset (List.mem_of_mem_filter hrow)
    have hleft : ∀ rows row, row ∈ leftBy main rows → row ∈ rows := by
      intro rows row hrow
      exact (List.dropWhile_sublist _).subset hrow
    rcases List.mem_cons.1 hgroup with rfl | hrest
    · exact ⟨htaken children, htaken inlines⟩
    · obtain ⟨hc, hi⟩ := ih hrest
      exact ⟨fun row hrow => hleft _ _ (hc row hrow), fun row hrow => hleft _ _ (hi row hrow)⟩

end

/-! ## Blanked columns -/

/-- The row with nothing but its number and its id. -/
def MainRow.keyOnly (r : MainRow) : MainRow := ⟨r.rowIndex, r.id, "", "", "", "", "", "", ""⟩

/-- The row with nothing but its number, its id and its parent. -/
def RelatedRow.keyOnly (r : RelatedRow) : RelatedRow :=
  ⟨r.kind, r.rowIndex, r.id, r.parentId, "", ""⟩

/-- The group of the blanked rows. -/
def Group.keyOnly (g : Group) : Group where
  main := g.main.keyOnly
  children := g.children.map RelatedRow.keyOnly
  inlines := g.inlines.map RelatedRow.keyOnly
  orphans := g.orphans.map RelatedRow.keyOnly

section

-- How a row stands to a main row is told by the parent of the one and the id of the other.

variable (main : MainRow) (rows : List RelatedRow)

theorem takenBy_keyOnly :
    takenBy main.keyOnly (rows.map RelatedRow.keyOnly) =
      (takenBy main rows).map RelatedRow.keyOnly :=
  List.takeWhile_map

theorem leftBy_keyOnly :
    leftBy main.keyOnly (rows.map RelatedRow.keyOnly) =
      (leftBy main rows).map RelatedRow.keyOnly :=
  List.dropWhile_map

theorem standingRows_keyOnly (standing : Standing) :
    standingRows main.keyOnly standing (rows.map RelatedRow.keyOnly) =
      (standingRows main standing rows).map RelatedRow.keyOnly :=
  List.filter_map

end

theorem groupOf_keyOnly (main : MainRow) (children inlines : List RelatedRow) :
    groupOf main.keyOnly (children.map RelatedRow.keyOnly) (inlines.map RelatedRow.keyOnly) =
      (groupOf main children inlines).keyOnly := by
  unfold groupOf Group.keyOnly
  simp only [takenBy_keyOnly, standingRows_keyOnly, List.map_append]

/-- Blanked rows are read as the blanked groups. -/
theorem groupsOf_keyOnly (mains : List MainRow) (children inlines : List RelatedRow) :
    groupsOf (mains.map MainRow.keyOnly) (children.map RelatedRow.keyOnly)
        (inlines.map RelatedRow.keyOnly) =
      (groupsOf mains children inlines).map Group.keyOnly := by
  induction mains generalizing children inlines with
  | nil => rfl
  | cons main mains ih =>
    rw [List.map_cons, groupsOf, groupOf_keyOnly, leftBy_keyOnly, leftBy_keyOnly, ih, groupsOf,
      List.map_cons]

theorem leftOf_keyOnly (mains : List MainRow) (children inlines : List RelatedRow) :
    leftOf (mains.map MainRow.keyOnly) (children.map RelatedRow.keyOnly)
        (inlines.map RelatedRow.keyOnly) =
      (leftOf mains children inlines).map RelatedRow.keyOnly := by
  induction mains generalizing children inlines with
  | nil => rw [List.map_nil, leftOf, leftOf, List.map_append]
  | cons main mains ih => rw [List.map_cons, leftOf, leftBy_keyOnly, leftBy_keyOnly, ih, leftOf]

/-! ## The rows of a dataset -/

/-- The rows of the three files of a dataset. -/
structure Rows where
  main : List MainRow
  related : RelatedKind → List RelatedRow

namespace Rows

/-- The groups that the rows are read as. -/
def groups (d : Rows) : List Group := groupsOf d.main (d.related .child) (d.related .inline)

/-- The related rows left over. -/
def left (d : Rows) : List RelatedRow := leftOf d.main (d.related .child) (d.related .inline)

/-- The directory can be opened, no row in it is bad, and these are its rows. -/
def ReadFrom (d : Rows) (dir : String) (headers : Bool) (t : FileTree) : Prop :=
  ∃ r tree, Reader.openDir dir headers t = (.ok r, tree) ∧
    r.Holds d.main (d.related .child) (d.related .inline)

/-- The key columns: the ids of the main rows, the ids and parents of the related rows. -/
def keys (d : Rows) : List String × (RelatedKind → List (String × String)) :=
  (d.main.map (·.id), fun kind => (d.related kind).map fun row => (row.id, row.parentId))

/-- The rows with blanked columns. -/
def keyOnly (d : Rows) : Rows where
  main := d.main.map MainRow.keyOnly
  related kind := (d.related kind).map RelatedRow.keyOnly

theorem groups_keyOnly (d : Rows) : d.keyOnly.groups = d.groups.map Group.keyOnly :=
  groupsOf_keyOnly _ _ _

theorem left_keyOnly (d : Rows) : d.keyOnly.left = d.left.map RelatedRow.keyOnly :=
  leftOf_keyOnly _ _ _

variable {d d' : Rows} {dir dir' : String} {headers headers' : Bool} {t t' : FileTree}

/-- A reader that holds the rows reads them as their groups. -/
theorem readsAll_of_holds {r : Reader}
    (hr : r.Holds d.main (d.related .child) (d.related .inline)) :
    r.ReadsAll d.groups d.left := by
  obtain ⟨groups, left, hall⟩ := Reader.exists_readsAll hr
  obtain ⟨rfl, rfl⟩ := hall.eq_groupsOf hr
  exact hall

/-- The rows that are read are numbered by their places, and of the kind of their file. -/
theorem ReadFrom.placed (h : d.ReadFrom dir headers t) :
    (∀ i (hi : i < d.main.length), d.main[i].rowIndex = i) ∧
      ∀ kind i (hi : i < (d.related kind).length),
        (d.related kind)[i].rowIndex = i ∧ (d.related kind)[i].kind = kind := by
  obtain ⟨r, tree, hopen, hr⟩ := h
  obtain ⟨files, rfl⟩ := Reader.openDir_ok hopen
  constructor
  · have hmain : numbered (MainRow.ofFields (Paths.inDir dir).main) (files.mainRows headers) =
        d.main.map .ok ++ [] := by
      rw [List.append_nil]
      exact hr.main
    intro i hi
    exact (MainRow.opens_of_numbered hmain i hi).1
  · intro kind i hi
    have hrelated : numbered (RelatedRow.ofFields kind ((Paths.inDir dir).related kind))
        (files.relatedRows headers kind) = (d.related kind).map .ok ++ [] := by
      rw [List.append_nil, ← Reader.rest_reader]
      cases kind with
      | child => exact hr.child
      | inline => exact hr.inline
    obtain ⟨hkind, hindex, -⟩ := RelatedRow.opens_of_numbered hrelated i hi
    exact ⟨hindex, hkind⟩

/-- Lists that agree in one respect agree in what that and the place of a member decide. -/
theorem map_eq_of_map_eq {α β γ : Type} {key : α → β} {f : α → γ} {rows rows' : List α}
    (hkeys : rows.map key = rows'.map key)
    (h : ∀ i (hi : i < rows.length) (hi' : i < rows'.length),
      key rows[i] = key rows'[i] → f rows[i] = f rows'[i]) :
    rows.map f = rows'.map f := by
  have hlength : rows.length = rows'.length := by
    rw [← List.length_map key, hkeys, List.length_map]
  refine List.ext_getElem (by rw [List.length_map, List.length_map, hlength]) fun i hi hi' => ?_
  rw [List.length_map] at hi hi'
  have hkey := List.getElem_of_eq hkeys (by rw [List.length_map]; exact hi)
  rw [List.getElem_map, List.getElem_map] at hkey
  rw [List.getElem_map, List.getElem_map]
  exact h i hi hi' hkey

/-- Datasets with the same key columns are the same once the others are blanked. -/
theorem keyOnly_eq (h : d.ReadFrom dir headers t) (h' : d'.ReadFrom dir' headers' t')
    (hkeys : d.keys = d'.keys) : d.keyOnly = d'.keyOnly := by
  obtain ⟨hmain, hrelated⟩ := Prod.mk.inj hkeys
  obtain ⟨hmains, hnumbers⟩ := h.placed
  obtain ⟨hmains', hnumbers'⟩ := h'.placed
  have hmainOnly : d.main.map MainRow.keyOnly = d'.main.map MainRow.keyOnly := by
    apply map_eq_of_map_eq hmain
    intro i hi hi' hid
    rw [MainRow.keyOnly, MainRow.keyOnly, hid, hmains i hi, hmains' i hi']
  have hrelatedOnly : ∀ kind,
      (d.related kind).map RelatedRow.keyOnly = (d'.related kind).map RelatedRow.keyOnly := by
    intro kind
    apply map_eq_of_map_eq (congrFun hrelated kind)
    intro i hi hi' hids
    obtain ⟨hid, hparent⟩ := Prod.mk.inj hids
    obtain ⟨hindex, hkind⟩ := hnumbers kind i hi
    obtain ⟨hindex', hkind'⟩ := hnumbers' kind i hi'
    rw [RelatedRow.keyOnly, RelatedRow.keyOnly, hid, hparent, hindex, hindex', hkind, hkind']
  unfold keyOnly
  rw [hmainOnly, Rows.mk.injEq]
  exact ⟨rfl, funext hrelatedOnly⟩

end Rows

end LinkedDocs.Dataset

namespace LinkedDocs.Dataset.Rows

open Evaluation

/-! ## The evaluation of readable rows -/

variable {d : Rows} {dir : String} {session : Session} {options : Options} {found : Result}

/-- What is wrong with the rows, in the order in which it is reported. -/
def violations (d : Rows) : List Violation := violationsOf d.groups d.left

/-- The rows that are counted. -/
def summary (d : Rows) : Summary where
  mainRows := d.groups.length
  childRows := Tally.rowCount Group.children d.groups
  inlineRows := Tally.rowCount Group.inlines d.groups
  orphanRows := Tally.rowCount Group.orphans d.groups + d.left.length
  deletedRows := Tally.deletedCount (d.groups.map Group.main)

/-- The result of an evaluation that keeps this many violations. -/
def result (d : Rows) (dir : String) (most : Nat) : Result where
  datasetDir := dir
  summary := d.summary
  violationCount := d.violations.length
  violations := d.violations.take most

/-- The tally counts the rows as they are read. -/
theorem summary_tally (d : Rows) (most : Nat) :
    (d.left.foldl Tally.orphan (d.groups.foldl Tally.checkGroup { most })).summary =
      d.summary := by
  rw [Tally.summary_orphans, Tally.summary_checkGroups]
  simp only [Nat.zero_add]
  rfl

/--
An evaluation of readable rows has the result that they determine, and no other.
It has none exactly if it is strict and something is wrong.
-/
theorem run_ok_iff (h : d.ReadFrom dir options.headers session.tree) :
    (∃ after, run options dir session = (.ok found, after)) ↔
      found = d.result dir options.maxExamples ∧ (options.strict = true → d.violations = []) := by
  obtain ⟨r, tree, hopen, hr⟩ := h
  rw [run_reports]
  constructor
  · rintro ⟨r', tree', groups, left, hopen', hall, rfl, hstrict⟩
    rw [hopen] at hopen'
    cases hopen'
    obtain ⟨rfl, rfl⟩ := hall.eq_groupsOf hr
    refine ⟨?_, hstrict⟩
    rw [Rows.result, ← d.summary_tally options.maxExamples]
    rfl
  · rintro ⟨rfl, hstrict⟩
    refine ⟨r, tree, _, _, hopen, readsAll_of_holds hr, ?_, hstrict⟩
    rw [Rows.result, ← d.summary_tally options.maxExamples]
    rfl

/-- A lenient evaluation yields a result exactly if the rows can be read. -/
theorem exists_result_iff (hlenient : options.strict = false) :
    (∃ result after, run options dir session = (.ok result, after)) ↔
      ∃ d : Rows, d.ReadFrom dir options.headers session.tree := by
  constructor
  · rintro ⟨result, hrun⟩
    obtain ⟨r, tree, groups, left, hopen, hall, -, -⟩ := run_reports.1 hrun
    obtain ⟨files, rfl⟩ := Reader.openDir_ok hopen
    obtain ⟨⟨mains, hmain⟩, hrelated⟩ := hall.good Reader.kindsAgree_reader
    choose rows hrows using hrelated
    exact ⟨⟨mains, rows⟩, _, tree, hopen, hmain, hrows .child, hrows .inline⟩
  · rintro ⟨d, hread⟩
    have hstrict : options.strict = true → d.violations = [] := by
      intro hstrict
      rw [hlenient] at hstrict
      cases hstrict
    obtain ⟨after, hrun⟩ := (run_ok_iff hread).2 ⟨rfl, hstrict⟩
    exact ⟨_, after, hrun⟩

end LinkedDocs.Dataset.Rows
