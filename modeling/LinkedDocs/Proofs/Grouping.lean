import LinkedDocs.Proofs.Join
import LinkedDocs.Proofs.SoundRows

/-!
# Which groups are read

Where the parents of the related rows are known, so are the groups: a main row
takes its own rows and the orphans before the first row that points ahead.

* `RelatedRow.standing_of_ids`: how a row stands to a main row, by their indices.
* `exists_group`: one group, of files that are split where rows turn ahead.
* `ReadsAll.of_inPlace`: groups in their places are read as they are, up to what is behind them.
* `readsAll_bare`: main rows without related rows.
-/

namespace LinkedDocs.Dataset

open Text

/-! ## One group -/

/-- How a row stands to a main row is told by the two indices. -/
theorem RelatedRow.standing_of_ids {row : RelatedRow} {main : MainRow} {m n : Nat}
    (hparent : row.parentId = DocId.main m) (hm : m < word64) (hid : main.id = DocId.main n)
    (hn : n < word64) :
    row.standing main = if m = n then .own else if m < n then .behind else .ahead := by
  rw [RelatedRow.standing, index?_of_id hid hn, RelatedRow.parentIndex?, hparent,
    DocId.mainIndex?_main hm, hid]
  simp only [DocId.main_injective.eq_iff]

/-- Own rows before rows that lie behind: the two lists come apart again. -/
theorem standingRows_append {main : MainRow} {own behind : List RelatedRow}
    (hown : ∀ row ∈ own, row.standing main = .own)
    (hbehind : ∀ row ∈ behind, row.standing main = .behind) :
    standingRows main .own (own ++ behind) = own ∧
      standingRows main .behind (own ++ behind) = behind := by
  have hall : ∀ {standing : Standing} {rows : List RelatedRow},
      (∀ row ∈ rows, row.standing main = standing) → standingRows main standing rows = rows :=
    fun h => List.filter_eq_self.2 fun row hrow => decide_eq_true (h row hrow)
  have hnone : ∀ {standing standing' : Standing} {rows : List RelatedRow}, standing ≠ standing' →
      (∀ row ∈ rows, row.standing main = standing) → standingRows main standing' rows = [] :=
    fun hne h => List.filter_eq_nil_iff.2 fun row hrow => by simpa [h row hrow] using hne
  have happend : ∀ standing, standingRows main standing (own ++ behind) =
      standingRows main standing own ++ standingRows main standing behind :=
    fun standing => List.filter_append own behind
  rw [happend, happend, hall hown, hall hbehind, hnone (by decide) hbehind,
    hnone (by decide) hown]
  exact ⟨List.append_nil _, List.nil_append _⟩

/-- The rows that are taken end where the rows turn ahead. -/
theorem RelatedStream.Takes.unique {main : MainRow} {taken front left : List RelatedRow}
    {s t : RelatedStream} (ht : Takes main taken s t) (h : s.rest = (front ++ left).map .ok)
    (hfront : ∀ row ∈ front, row.standing main ≠ .ahead)
    (hleft : ∀ row ∈ left, row.standing main = .ahead) :
    taken = front ∧ t.rest = left.map .ok := by
  rcases ht.good h with ⟨left', hsplit, hrest⟩
  rcases List.append_eq_append_iff.1 hsplit with ⟨more, rfl, rfl⟩ | ⟨more, rfl, rfl⟩
  · -- the rows taken reach further: the first of the others is ahead, and yet taken
    cases more with
    | nil => exact ⟨(List.append_nil _), hrest⟩
    | cons row more =>
      exact absurd (hleft row (by simp)) (ht.not_ahead row (by simp))
  · -- the rows taken end sooner: the first one left is ahead, and yet in front
    cases more with
    | nil => exact ⟨(List.append_nil _).symm, hrest⟩
    | cons row more =>
      exact absurd (ht.ends row _ hrest) (hfront row (by simp))

namespace Reader

/-- The next group, of files that are split where rows turn ahead. -/
theorem exists_group {r : Reader} {main : MainRow} {mains : List MainRow}
    {frontc leftc fronti lefti : List RelatedRow}
    (h : r.Holds (main :: mains) (frontc ++ leftc) (fronti ++ lefti))
    (hfront : ∀ row ∈ frontc ++ fronti, row.standing main ≠ .ahead)
    (hleft : ∀ row ∈ leftc ++ lefti, row.standing main = .ahead) :
    ∃ r', r.nextGroup = (.ok (some
        { main
          children := standingRows main .own frontc
          inlines := standingRows main .own fronti
          orphans := standingRows main .behind frontc ++ standingRows main .behind fronti }),
        r') ∧ r'.Holds mains leftc lefti := by
  rw [List.forall_mem_append] at hfront hleft
  rcases exists_nextGroup h with ⟨group, r', hgroup⟩
  rcases nextGroup_ok hgroup with ⟨hmain, takenc, takeni, htc, hti, hown, hown', horphans⟩
  rw [h.main, List.map_cons, List.cons.injEq, Except.ok.injEq] at hmain
  rcases hmain with ⟨rfl, hmains⟩
  obtain ⟨rfl, hc⟩ := htc.unique h.child hfront.1 hleft.1
  obtain ⟨rfl, hi⟩ := hti.unique h.inline hfront.2 hleft.2
  refine ⟨r', ?_, hmains.symm, hc, hi⟩
  rw [hgroup, ← hown, ← hown', ← horphans]

/-- A main row takes its own rows and those behind it, if all that is left lies ahead. -/
theorem ReadsAll.cons {r : Reader} {main : MainRow} {mains : List MainRow}
    {own own' behind behind' leftc lefti left : List RelatedRow} {groups : List Group}
    (h : r.Holds (main :: mains) ((own ++ behind) ++ leftc) ((own' ++ behind') ++ lefti))
    (hown : ∀ row ∈ own ++ own', row.standing main = .own)
    (hbehind : ∀ row ∈ behind ++ behind', row.standing main = .behind)
    (hahead : ∀ row ∈ leftc ++ lefti, row.standing main = .ahead)
    (hrest : ∀ r' : Reader, r'.Holds mains leftc lefti → r'.ReadsAll groups left) :
    r.ReadsAll (⟨main, own, own', behind ++ behind'⟩ :: groups) left := by
  have hfront : ∀ row ∈ (own ++ behind) ++ (own' ++ behind'), row.standing main ≠ .ahead := by
    intro row hrow
    have hsome : row ∈ own ++ own' ∨ row ∈ behind ++ behind' := by
      simp only [List.mem_append] at hrow ⊢
      tauto
    rcases hsome with hrow | hrow
    · simp [hown row hrow]
    · simp [hbehind row hrow]
  rcases exists_group h hfront hahead with ⟨r', hgroup, hr'⟩
  rw [List.forall_mem_append] at hown hbehind
  obtain ⟨hc, hc'⟩ := standingRows_append hown.1 hbehind.1
  obtain ⟨hi, hi'⟩ := standingRows_append hown.2 hbehind.2
  rw [hc, hi, hc', hi'] at hgroup
  exact .group hgroup (hrest r' hr')

end Reader

/-! ## Groups in their places -/

/-- Each row points at a main document from number `first` on. -/
def PointFrom (first : Nat) (rows : List RelatedRow) : Prop :=
  ∀ row ∈ rows, ∃ m, first ≤ m ∧ m < word64 ∧ row.parentId = DocId.main m

theorem PointFrom.append {first : Nat} {rows rows' : List RelatedRow} (h : PointFrom first rows)
    (h' : PointFrom first rows') : PointFrom first (rows ++ rows') :=
  List.forall_mem_append.2 ⟨h, h'⟩

/-- Rows that point at late documents point at no earlier one. -/
theorem PointFrom.mono {first first' : Nat} {rows : List RelatedRow} (h : PointFrom first' rows)
    (hle : first ≤ first') : PointFrom first rows := by
  intro row hrow
  rcases h row hrow with ⟨m, hm, hparent⟩
  exact ⟨m, Nat.le_trans hle hm, hparent⟩

/-- Rows that point further on lie ahead. -/
theorem PointFrom.ahead {main : MainRow} {n : Nat} {rows : List RelatedRow}
    (h : PointFrom (n + 1) rows) (hid : main.id = DocId.main n) (hn : n < word64) :
    ∀ row ∈ rows, row.standing main = .ahead := by
  intro row hrow
  rcases h row hrow with ⟨m, hm, hm', hparent⟩
  rw [RelatedRow.standing_of_ids hparent hm' hid hn, if_neg (by omega), if_neg (by omega)]

/-- A main row of index `i` with rows that point at it, and no others. -/
structure InPlace (group : Group) (i : Nat) : Prop where
  id_eq : group.main.id = DocId.main i
  parent_eq : ∀ kind, ∀ row ∈ group.related kind, row.parentId = group.main.id
  orphans : group.orphans = []

/-- Each related row of groups in their places points at one of the places. -/
theorem exists_place_of_mem {kind : RelatedKind} {groups : List Group} {first : Nat}
    (h : ∀ i (hi : i < groups.length), InPlace groups[i] (first + i)) {row : RelatedRow}
    (hrow : row ∈ groups.flatMap (Group.related · kind)) :
    ∃ i < groups.length, row.parentId = DocId.main (first + i) := by
  rcases List.mem_flatMap.1 hrow with ⟨group, hgroup, hrow⟩
  rcases List.getElem_of_mem hgroup with ⟨i, hi, rfl⟩
  exact ⟨i, hi, ((h i hi).parent_eq kind row hrow).trans (h i hi).id_eq⟩

/-- The rows of groups in their places point at documents from the first group on. -/
theorem pointFrom_related (kind : RelatedKind) {groups : List Group} {first : Nat}
    (h : ∀ i (hi : i < groups.length), InPlace groups[i] (first + i))
    (hbelow : first + groups.length ≤ word64) :
    PointFrom first (groups.flatMap (Group.related · kind)) := by
  intro row hrow
  rcases exists_place_of_mem h hrow with ⟨i, hi, hparent⟩
  exact ⟨first + i, Nat.le_add_right _ _, by omega, hparent⟩

/-- A group of a main row alone. -/
def Group.bare (main : MainRow) : Group := ⟨main, [], [], []⟩

namespace Reader

/-- Groups in their places are read as they are, if the rows behind them point further on. -/
theorem ReadsAll.of_inPlace {front groups : List Group} {first : Nat} {r : Reader}
    {mains : List MainRow} {children inlines left : List RelatedRow}
    (hr : r.Holds (front.map Group.main ++ mains) (front.flatMap Group.children ++ children)
      (front.flatMap Group.inlines ++ inlines))
    (hfront : ∀ i (h : i < front.length), InPlace front[i] (first + i))
    (hbelow : first + front.length ≤ word64)
    (hlater : PointFrom (first + front.length) (children ++ inlines))
    (hrest : ∀ r' : Reader, r'.Holds mains children inlines → r'.ReadsAll groups left) :
    r.ReadsAll (front ++ groups) left := by
  induction front generalizing first r with
  | nil => exact hrest r hr
  | cons group front ih =>
    rw [List.length_cons] at hbelow hlater
    obtain ⟨hgroup, hfront⟩ :=
      (Evaluation.forall_getElem_cons (P := fun i group => InPlace group i)).1 hfront
    have hahead : PointFrom (first + 1) ((front.flatMap Group.children ++ children) ++
        (front.flatMap Group.inlines ++ inlines)) := by
      rcases List.forall_mem_append.1 hlater with ⟨hchildren, hinlines⟩
      refine .append (.append ?_ (PointFrom.mono hchildren (by omega)))
        (.append ?_ (PointFrom.mono hinlines (by omega)))
      · exact pointFrom_related .child hfront (by omega)
      · exact pointFrom_related .inline hfront (by omega)
    have hown : ∀ row ∈ group.children ++ group.inlines, row.standing group.main = .own :=
      List.forall_mem_append.2
        ⟨fun row hrow => RelatedRow.standing_eq_own_iff.2 (hgroup.parent_eq .child row hrow),
          fun row hrow => RelatedRow.standing_eq_own_iff.2 (hgroup.parent_eq .inline row hrow)⟩
    have heq : group = ⟨group.main, group.children, group.inlines, [] ++ []⟩ := by
      rw [List.append_nil, ← hgroup.orphans]
    rw [List.cons_append, heq]
    have hsplit : r.Holds (group.main :: (front.map Group.main ++ mains))
        ((group.children ++ []) ++ (front.flatMap Group.children ++ children))
        ((group.inlines ++ []) ++ (front.flatMap Group.inlines ++ inlines)) := by
      simpa using hr
    refine ReadsAll.cons hsplit hown (by simp) (hahead.ahead hgroup.id_eq (by omega))
      fun r' hr' => ih hr' hfront (by omega) ?_
    rw [Nat.add_right_comm]
    exact hlater

/-- Main rows without related rows are groups by themselves. -/
theorem readsAll_bare {mains : List MainRow} {r : Reader} (hr : r.Holds mains [] []) :
    r.ReadsAll (mains.map Group.bare) [] := by
  induction mains generalizing r with
  | nil =>
    rcases exists_remaining hr with ⟨left, r', hleft⟩
    rcases remaining_ok hleft with ⟨children, inlines, rfl, -, hc, hi, -⟩
    rw [hr.child, List.map_nil, eq_comm, List.map_eq_nil_iff] at hc
    rw [hr.inline, List.map_nil, eq_comm, List.map_eq_nil_iff] at hi
    subst hc hi
    exact .done (nextGroup_of_nil hr) hleft
  | cons main mains ih =>
    have hsplit : r.Holds (main :: mains) (([] ++ []) ++ []) (([] ++ []) ++ []) := hr
    exact ReadsAll.cons hsplit (by simp) (by simp) (by simp) fun r' hr' => ih hr'

end Reader

end LinkedDocs.Dataset
