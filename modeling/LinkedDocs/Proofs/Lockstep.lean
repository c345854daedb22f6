import LinkedDocs.Dataset.Reader
import Mathlib.Data.List.Basic

/-!
# What a step of the reader does

Each step of the lockstep reader is described by the rows that it takes from the
front of what is still to be handed out.

* `collect_ok`, `drain_ok`: the rows taken from one related file.
* `nextGroup_ok`, `remaining_ok`: the same for the three files.
* `ReadsAll`: reading group after group, and then what is left.
* `exists_readsAll`: files without a bad row are read to the end.
-/

namespace LinkedDocs.Dataset

/-- A good row is told by what it is read as. -/
theorem ok_injective {α : Type} : Function.Injective (Except.ok : α → Except ReadError α) :=
  fun _ _ => Except.ok.inj

/-! ## One related file -/

/-- The rows that stand to a main row in a given way. -/
def standingRows (main : MainRow) (standing : Standing) (rows : List RelatedRow) :
    List RelatedRow :=
  rows.filter fun row => row.standing main = standing

namespace RelatedStream

/-- `taken` are the rows up to the first one that belongs to a later main row. -/
structure Takes (main : MainRow) (taken : List RelatedRow) (s t : RelatedStream) : Prop where
  rest_eq : s.rest = taken.map .ok ++ t.rest
  not_ahead : ∀ row ∈ taken, row.standing main ≠ .ahead
  ends : ∀ row rest, t.rest = .ok row :: rest → row.standing main = .ahead

/-- One more row in front of those that are taken. -/
theorem Takes.cons {main : MainRow} {row : RelatedRow} {taken : List RelatedRow}
    {s s' t : RelatedStream} (h : s.next? = (.ok (some row), s'))
    (hrow : row.standing main ≠ .ahead) (ht : Takes main taken s' t) :
    Takes main (row :: taken) s t where
  rest_eq := by rw [rest_next? h, ht.rest_eq, List.map_cons, List.cons_append]
  not_ahead := List.forall_mem_cons.2 ⟨hrow, ht.not_ahead⟩
  ends := ht.ends

/-- A stream ends only where nothing is left of it. -/
theorem rest_of_next?_none {s t : RelatedStream} (h : s.next? = (.ok none, t)) :
    s.rest = [] ∧ t.rest = [] := by
  rw [next?_eq] at h
  rcases hr : s.rest with - | ⟨e | head, rest⟩ <;> rw [hr] at h
  · simp only [Prod.mk.injEq, true_and] at h
    exact ⟨rfl, h ▸ rfl⟩
  · simp at h
  · simp at h

/-- The rows of a main row and the orphans before them, out of the rows taken. -/
theorem collectOnto_ok {main : MainRow} {own orphans own' orphans' : List RelatedRow}
    {s t : RelatedStream} (h : s.collectOnto main own orphans = (.ok (own', orphans'), t)) :
    ∃ taken, Takes main taken s t ∧ own' = own.reverse ++ standingRows main .own taken ∧
      orphans' = orphans.reverse ++ standingRows main .behind taken := by
  fun_induction collectOnto main own orphans s with
  | case1 own orphans s e s' hs => simp at h
  | case2 own orphans s s' hs =>
    rcases rest_of_next?_none hs with ⟨hrest, hrest'⟩
    simp only [Prod.mk.injEq, Except.ok.injEq] at h
    rcases h with ⟨⟨rfl, rfl⟩, rfl⟩
    refine ⟨[], ⟨by simp [hrest, hrest'], by simp, ?_⟩, by simp [standingRows],
      by simp [standingRows]⟩
    intro row rest hr
    rw [hrest'] at hr
    exact absurd hr.symm (List.cons_ne_nil _ _)
  | case3 own orphans s row s' hs hrow ih =>
    rcases ih h with ⟨taken, ht, rfl, rfl⟩
    exact ⟨row :: taken, ht.cons hs (by simp [hrow]), by simp [standingRows, hrow],
      by simp [standingRows, hrow]⟩
  | case4 own orphans s row s' hs hrow ih =>
    rcases ih h with ⟨taken, ht, rfl, rfl⟩
    exact ⟨row :: taken, ht.cons hs (by simp [hrow]), by simp [standingRows, hrow],
      by simp [standingRows, hrow]⟩
  | case5 own orphans s row s' hs hrow =>
    simp only [Prod.mk.injEq, Except.ok.injEq] at h
    rcases h with ⟨⟨rfl, rfl⟩, rfl⟩
    -- The row is put back, so that the stream hands out what it did before.
    have hpending : s'.pending = none := by simpa [hs] using pending_next? s
    have hrest : ({ s' with pending := some row } : RelatedStream).rest = s.rest := by
      rw [rest_next? hs]
      simp [rest, hpending]
    refine ⟨[], ⟨by simp [hrest], by simp, ?_⟩, by simp [standingRows], by simp [standingRows]⟩
    intro row' rest hr
    rw [hrest, rest_next? hs, List.cons.injEq, Except.ok.injEq] at hr
    rw [← hr.1]
    exact hrow

/-- A main row collects its own rows and orphans from the rows that it takes. -/
theorem collect_ok {main : MainRow} {own orphans : List RelatedRow} {s t : RelatedStream}
    (h : s.collect main = (.ok (own, orphans), t)) :
    ∃ taken, Takes main taken s t ∧ own = standingRows main .own taken ∧
      orphans = standingRows main .behind taken := by
  rcases collectOnto_ok h with ⟨taken, ht, hown, horphans⟩
  exact ⟨taken, ht, by simpa using hown, by simpa using horphans⟩

/-- All rows that are still to be handed out. -/
theorem drainOnto_ok {done rows : List RelatedRow} {s t : RelatedStream}
    (h : s.drainOnto done = (.ok rows, t)) :
    ∃ taken, s.rest = taken.map .ok ∧ rows = done.reverse ++ taken ∧ t.rest = [] := by
  fun_induction drainOnto done s with
  | case1 done s e s' hs => simp at h
  | case2 done s s' hs =>
    rcases rest_of_next?_none hs with ⟨hrest, hrest'⟩
    simp only [Prod.mk.injEq, Except.ok.injEq] at h
    rcases h with ⟨rfl, rfl⟩
    exact ⟨[], by simp [hrest], by simp, hrest'⟩
  | case3 done s row s' hs ih =>
    rcases ih h with ⟨taken, hrest, rfl, hrest'⟩
    exact ⟨row :: taken, by rw [rest_next? hs, hrest, List.map_cons], by simp, hrest'⟩

/-- Draining a stream yields all rows that are left, if they are good. -/
theorem drain_ok {rows : List RelatedRow} {s t : RelatedStream} (h : s.drain = (.ok rows, t)) :
    s.rest = rows.map .ok ∧ t.rest = [] := by
  rcases drainOnto_ok h with ⟨taken, hrest, hrows, hrest'⟩
  rw [List.reverse_nil, List.nil_append] at hrows
  exact ⟨hrows ▸ hrest, hrest'⟩

/-! ### Files without a bad row -/

/-- A stream of good rows never yields an error. -/
theorem rest_ne_error_of_good {s : RelatedStream} {rows : List RelatedRow}
    (h : s.rest = rows.map .ok) {e : ReadError} {t : RelatedStream} : s.next? ≠ (.error e, t) := by
  intro hs
  rw [next?_eq, h] at hs
  cases rows <;> simp at hs

/-- What follows a row of a good file is good. -/
theorem good_tail {s t : RelatedStream} {row : RelatedRow} {rows : List RelatedRow}
    (h : s.rest = rows.map .ok) (hs : s.next? = (.ok (some row), t)) :
    t.rest = rows.tail.map .ok := by
  rw [rest_next? hs] at h
  cases rows with
  | nil => simp at h
  | cons head tail =>
    rw [List.map_cons, List.cons.injEq] at h
    exact h.2

/-- From a stream of good rows a main row always collects. -/
theorem exists_collectOnto (main : MainRow) (own orphans : List RelatedRow)
    {rows : List RelatedRow} {s : RelatedStream} (h : s.rest = rows.map .ok) :
    ∃ lists t, s.collectOnto main own orphans = (.ok lists, t) := by
  fun_induction collectOnto main own orphans s generalizing rows with
  | case1 own orphans s e s' hs => exact absurd hs (rest_ne_error_of_good h)
  | case2 own orphans s s' hs => exact ⟨_, _, rfl⟩
  | case3 own orphans s row s' hs hrow ih => exact ih (good_tail h hs)
  | case4 own orphans s row s' hs hrow ih => exact ih (good_tail h hs)
  | case5 own orphans s row s' hs hrow => exact ⟨_, _, rfl⟩

theorem exists_drainOnto (done : List RelatedRow) {rows : List RelatedRow} {s : RelatedStream}
    (h : s.rest = rows.map .ok) : ∃ lists t, s.drainOnto done = (.ok lists, t) := by
  fun_induction drainOnto done s generalizing rows with
  | case1 done s e s' hs => exact absurd hs (rest_ne_error_of_good h)
  | case2 done s s' hs => exact ⟨_, _, rfl⟩
  | case3 done s row s' hs ih => exact ih (good_tail h hs)

/-- What is left of a good file is good. -/
theorem Takes.good {main : MainRow} {taken rows : List RelatedRow} {s t : RelatedStream}
    (ht : Takes main taken s t) (h : s.rest = rows.map .ok) :
    ∃ left, rows = taken ++ left ∧ t.rest = left.map .ok := by
  rw [ht.rest_eq, eq_comm, List.map_eq_append_iff] at h
  rcases h with ⟨front, left, rfl, hfront, hleft⟩
  rw [List.map_injective_iff.2 ok_injective hfront]
  exact ⟨left, rfl, hleft.symm⟩

end RelatedStream

/-! ## The three files -/

/-- The entry of a kind of related file. -/
def Reader.related (r : Reader) : RelatedKind → RelatedStream
  | .child => r.child
  | .inline => r.inline

/-- The rows of a group of a kind of related file that point at its main row. -/
def Group.related (g : Group) : RelatedKind → List RelatedRow
  | .child => g.children
  | .inline => g.inlines

namespace Reader

open RelatedStream

/-- A group takes the next main row, and from each related file the rows up to a later main row. -/
theorem nextGroup_ok {r r' : Reader} {group : Group} (h : r.nextGroup = (.ok (some group), r')) :
    r.main = .ok group.main :: r'.main ∧
      ∃ children inlines, Takes group.main children r.child r'.child ∧
        Takes group.main inlines r.inline r'.inline ∧
        group.children = standingRows group.main .own children ∧
        group.inlines = standingRows group.main .own inlines ∧
        group.orphans = standingRows group.main .behind children ++
          standingRows group.main .behind inlines := by
  rw [nextGroup] at h
  split at h
  · simp at h
  · simp at h
  rename_i main rest hmain
  split at h
  · simp at h
  rename_i children childOrphans child hchild
  split at h
  · simp at h
  rename_i inlines inlineOrphans inline hinline
  simp only [Prod.mk.injEq, Except.ok.injEq, Option.some.injEq] at h
  rcases h with ⟨rfl, rfl⟩
  -- The group is what the three reads yield, one after the other.
  rcases collect_ok hchild with ⟨takenChildren, htc, hchildren, hchildOrphans⟩
  rcases collect_ok hinline with ⟨takenInlines, hti, hinlines, hinlineOrphans⟩
  exact ⟨hmain, takenChildren, takenInlines, htc, hti, hchildren, hinlines,
    by rw [hchildOrphans, hinlineOrphans]⟩

/-- There is no next group only where no main row is left. -/
theorem nextGroup_none {r r' : Reader} (h : r.nextGroup = (.ok none, r')) :
    r.main = [] ∧ r' = r := by
  rw [nextGroup] at h
  split at h
  · rename_i hmain
    simp only [Prod.mk.injEq, true_and] at h
    exact ⟨hmain, h.symm⟩
  · simp at h
  · split at h
    · simp at h
    · split at h <;> simp at h

/-- What no group took is handed out at the end, children first. -/
theorem remaining_ok {r r' : Reader} {rows : List RelatedRow}
    (h : r.remaining = (.ok rows, r')) :
    ∃ children inlines, rows = children ++ inlines ∧ r'.main = r.main ∧
      r.child.rest = children.map .ok ∧ r.inline.rest = inlines.map .ok ∧
      r'.child.rest = [] ∧ r'.inline.rest = [] := by
  rw [remaining] at h
  split at h
  · simp at h
  rename_i children child hchild
  split at h
  · simp at h
  rename_i inlines inline hinline
  simp only [Prod.mk.injEq, Except.ok.injEq] at h
  rcases h with ⟨rfl, rfl⟩
  rcases drain_ok hchild with ⟨hc, hc'⟩
  rcases drain_ok hinline with ⟨hi, hi'⟩
  exact ⟨children, inlines, rfl, rfl, hc, hi, hc', hi'⟩

/-! ## Reading to the end -/

/-- The groups of a reader, one after the other, and the related rows that no group took. -/
inductive ReadsAll : Reader → List Group → List RelatedRow → Prop where
  | done {r r' r'' : Reader} {left : List RelatedRow} (hnone : r.nextGroup = (.ok none, r'))
      (hleft : r'.remaining = (.ok left, r'')) : ReadsAll r [] left
  | group {r r' : Reader} {group : Group} {groups : List Group} {left : List RelatedRow}
      (hgroup : r.nextGroup = (.ok (some group), r')) (hrest : ReadsAll r' groups left) :
      ReadsAll r (group :: groups) left

/-- The files of a reader hold these rows and no bad one. -/
structure Holds (r : Reader) (mains : List MainRow) (children inlines : List RelatedRow) :
    Prop where
  main : r.main = mains.map .ok
  child : r.child.rest = children.map .ok
  inline : r.inline.rest = inlines.map .ok

/-- Where a main row is left and no row is bad, there is a next group. -/
theorem exists_nextGroup {r : Reader} {main : MainRow} {mains : List MainRow}
    {children inlines : List RelatedRow} (h : r.Holds (main :: mains) children inlines) :
    ∃ group r', r.nextGroup = (.ok (some group), r') := by
  rcases exists_collectOnto main [] [] h.child with ⟨⟨own, orphans⟩, child, hchild⟩
  rcases exists_collectOnto main [] [] h.inline with ⟨⟨own', orphans'⟩, inline, hinline⟩
  refine ⟨⟨main, own, own', orphans ++ orphans'⟩, ⟨mains.map .ok, child, inline⟩, ?_⟩
  simp only [nextGroup, h.main, List.map_cons, collect, hchild, hinline]

theorem nextGroup_of_nil {r : Reader} {children inlines : List RelatedRow}
    (h : r.Holds [] children inlines) : r.nextGroup = (.ok none, r) := by
  have hmain : r.main = [] := h.main
  rw [nextGroup, hmain]

/-- Where no row is bad, the rows that are left can be read. -/
theorem exists_remaining {r : Reader} {mains : List MainRow} {children inlines : List RelatedRow}
    (h : r.Holds mains children inlines) : ∃ left r', r.remaining = (.ok left, r') := by
  rcases exists_drainOnto [] h.child with ⟨rows, child, hchild⟩
  rcases exists_drainOnto [] h.inline with ⟨rows', inline, hinline⟩
  exact ⟨rows ++ rows', ⟨r.main, child, inline⟩, by simp only [remaining, drain, hchild, hinline]⟩

/-- What a group leaves of good files is good. -/
theorem Holds.after_group {r r' : Reader} {group : Group} {main : MainRow} {mains : List MainRow}
    {children inlines : List RelatedRow} (h : r.Holds (main :: mains) children inlines)
    (hgroup : r.nextGroup = (.ok (some group), r')) :
    group.main = main ∧ ∃ children' inlines', r'.Holds mains children' inlines' := by
  rcases nextGroup_ok hgroup with ⟨hmain, takenChildren, takenInlines, htc, hti, -⟩
  rw [h.main, List.map_cons, List.cons.injEq, Except.ok.injEq] at hmain
  rcases htc.good h.child with ⟨leftChildren, -, hc⟩
  rcases hti.good h.inline with ⟨leftInlines, -, hi⟩
  exact ⟨hmain.1.symm, leftChildren, leftInlines, hmain.2.symm, hc, hi⟩

/-- Files without a bad row are read to the end. -/
theorem exists_readsAll {r : Reader} {mains : List MainRow} {children inlines : List RelatedRow}
    (h : r.Holds mains children inlines) : ∃ groups left, r.ReadsAll groups left := by
  induction mains generalizing r children inlines with
  | nil =>
    rcases exists_remaining h with ⟨left, r', hleft⟩
    exact ⟨[], left, .done (nextGroup_of_nil h) hleft⟩
  | cons main mains ih =>
    rcases exists_nextGroup h with ⟨group, r', hgroup⟩
    rcases h.after_group hgroup with ⟨-, children', inlines', h'⟩
    rcases ih h' with ⟨groups, left, hall⟩
    exact ⟨group :: groups, left, .group hgroup hall⟩

/-- Nothing is read from files without rows. -/
theorem ReadsAll.of_empty {r : Reader} {groups : List Group} {left : List RelatedRow}
    (hall : r.ReadsAll groups left) (h : r.Holds [] [] []) : groups = [] ∧ left = [] := by
  cases hall with
  | done hnone hleft =>
    obtain ⟨-, rfl⟩ := nextGroup_none hnone
    obtain ⟨children, inlines, rfl, -, hc, hi, -⟩ := remaining_ok hleft
    rw [h.child, List.map_nil, eq_comm, List.map_eq_nil_iff] at hc
    rw [h.inline, List.map_nil, eq_comm, List.map_eq_nil_iff] at hi
    exact ⟨rfl, by rw [hc, hi, List.append_nil]⟩
  | group hgroup hrest =>
    have hmain := (nextGroup_ok hgroup).1
    rw [h.main] at hmain
    cases hmain

end Reader

end LinkedDocs.Dataset
