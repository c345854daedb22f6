import LinkedDocs.Dataset.Files
import LinkedDocs.Dataset.Row

/-!
# Reading a dataset

The three files are read in lockstep: each main row takes the related rows that
point at it. Related rows are expected in the order of their parents. A related
row whose parent lies before the main row, or is no main id at all, has no main
row any more and is an orphan; one whose parent lies ahead is held until its
main row comes.

* `RelatedStream.next?`: the next row of a related file, held or read; `rest` is
  what it has still to hand out.
* `Reader.nextGroup`, `Reader.next`: the next main row and what belongs to it.
* `Reader.remaining`: the related rows that no group took.
* A bad row is reported once; what was read with it is lost, and reading goes on
  after it.
-/

namespace LinkedDocs.Dataset

/-- A main row with the rows that point at it, and the orphans passed over on the way. -/
structure Group where
  main : MainRow
  children : List RelatedRow
  inlines : List RelatedRow
  orphans : List RelatedRow
  deriving DecidableEq, Repr

/-- How a related row stands to a main row. -/
inductive Standing where
  /-- It points at the main row. -/
  | own
  /-- Its parent lies before the main row, or nowhere. -/
  | behind
  /-- Its parent may still come. -/
  | ahead
  deriving DecidableEq, Repr

/-- How a related row stands to a main row. -/
def RelatedRow.standing (row : RelatedRow) (main : MainRow) : Standing :=
  if row.parentId = main.id then .own
  else
    match row.parentIndex?, main.index? with
    | none, _ => .behind
    | some parent, some current => if parent < current then .behind else .ahead
    | some _, none => .ahead

/-! ## One related file -/

/-- A related file that is being read: the row read ahead of its main row, and what is behind it. -/
structure RelatedStream where
  pending : Option RelatedRow := none
  feed : Feed RelatedRow

namespace RelatedStream

/-- Reads a row ahead, unless one is held already. -/
def fill (s : RelatedStream) : Except ReadError Unit × RelatedStream :=
  match s.pending, s.feed with
  | some _, _ => (.ok (), s)
  | none, [] => (.ok (), s)
  | none, .error e :: rest => (.error e, { s with feed := rest })
  | none, .ok row :: rest => (.ok (), { pending := some row, feed := rest })

/-- Takes the next row, and holds none; `none` at the end of the file. -/
def next? (s : RelatedStream) : Except ReadError (Option RelatedRow) × RelatedStream :=
  match s.fill with
  | (.error e, s) => (.error e, s)
  | (.ok (), s) => (.ok s.pending, { s with pending := none })

/-- All that is still to be handed out: the row read ahead, and what is behind it. -/
def rest (s : RelatedStream) : Feed RelatedRow := s.pending.toList.map .ok ++ s.feed

/-- Taking the next row, by what is still to be handed out. -/
theorem next?_eq (s : RelatedStream) :
    s.next? = match s.rest with
      | [] => (.ok none, { feed := [] })
      | .error e :: rest => (.error e, { feed := rest })
      | .ok row :: rest => (.ok (some row), { feed := rest }) := by
  obtain ⟨pending, feed⟩ := s
  cases pending with
  | some row => rfl
  | none => rcases feed with - | ⟨- | row, rest⟩ <;> rfl

/-- No row is held once the next one is taken. -/
theorem pending_next? (s : RelatedStream) : s.next?.2.pending = none := by
  rw [next?_eq]
  rcases s.rest with - | ⟨- | row, rest⟩ <;> rfl

/-- A row that is taken is not handed out again. -/
theorem rest_next? {s t : RelatedStream} {row : RelatedRow} (h : s.next? = (.ok (some row), t)) :
    s.rest = .ok row :: t.rest := by
  rw [next?_eq] at h
  rcases hr : s.rest with - | ⟨e | head, rest⟩ <;> rw [hr] at h
  · simp at h
  · simp at h
  · simp only [Prod.mk.injEq, Except.ok.injEq, Option.some.injEq] at h
    rw [h.1, ← h.2]
    rfl

/--
Takes the rows of a main row, behind those of `own` and `orphans`, which hold
the last first; yields both lists in order. A row that belongs to a later main
row is held.
-/
def collectOnto (main : MainRow) (own orphans : List RelatedRow) (s : RelatedStream) :
    Except ReadError (List RelatedRow × List RelatedRow) × RelatedStream :=
  match _h : s.next? with
  | (.error e, s) => (.error e, s)
  | (.ok none, s) => (.ok (own.reverse, orphans.reverse), s)
  | (.ok (some row), s) =>
    match row.standing main with
    | .own => collectOnto main (row :: own) orphans s
    | .behind => collectOnto main own (row :: orphans) s
    | .ahead => (.ok (own.reverse, orphans.reverse), { s with pending := some row })
termination_by s.rest.length
decreasing_by
  all_goals
    rw [rest_next? _h]
    exact Nat.lt_succ_self _

/-- Takes the rows of a main row and the orphans before them. -/
def collect (s : RelatedStream) (main : MainRow) :
    Except ReadError (List RelatedRow × List RelatedRow) × RelatedStream :=
  collectOnto main [] [] s

/-- Takes all rows, behind those of `done`, which holds the last first. -/
def drainOnto (done : List RelatedRow) (s : RelatedStream) :
    Except ReadError (List RelatedRow) × RelatedStream :=
  match _h : s.next? with
  | (.error e, s) => (.error e, s)
  | (.ok none, s) => (.ok done.reverse, s)
  | (.ok (some row), s) => drainOnto (row :: done) s
termination_by s.rest.length
decreasing_by
  rw [rest_next? _h]
  exact Nat.lt_succ_self _

/-- Takes all rows. -/
def drain (s : RelatedStream) : Except ReadError (List RelatedRow) × RelatedStream :=
  drainOnto [] s

end RelatedStream

/-! ## The three files -/

/-- A dataset that is being read. -/
structure Reader where
  main : Feed MainRow
  child : RelatedStream
  inline : RelatedStream

namespace Reader

/-- The reader of three files as they stand. -/
def ofEntries (paths : Paths) (headers : Bool) (main child inline : Entry) : Reader where
  main := numbered (MainRow.ofFields paths.main) (Csv.rows headers main)
  child := { feed := numbered (RelatedRow.ofFields .child paths.child) (Csv.rows headers child) }
  inline :=
    { feed := numbered (RelatedRow.ofFields .inline paths.inline) (Csv.rows headers inline) }

/-- Opens the main, the child and the inline file of a directory, in this order. -/
def openDir (dir : String) (headers : Bool) : FileWork Reader := do
  let paths := Paths.inDir dir
  let main ← FileWork.openEntry paths.main
  let child ← FileWork.openEntry paths.child
  let inline ← FileWork.openEntry paths.inline
  return ofEntries paths headers main child inline

/-- The next main row with the rows that belong to it; `none` after the last main row. -/
def nextGroup (r : Reader) : Except ReadError (Option Group) × Reader :=
  match r.main with
  | [] => (.ok none, r)
  | .error e :: rest => (.error e, { r with main := rest })
  | .ok main :: rest =>
    match r.child.collect main with
    | (.error e, child) => (.error e, { r with main := rest, child })
    | (.ok (children, childOrphans), child) =>
      match r.inline.collect main with
      | (.error e, inline) => (.error e, { main := rest, child, inline })
      | (.ok (inlines, inlineOrphans), inline) =>
        (.ok (some { main, children, inlines, orphans := childOrphans ++ inlineOrphans }),
          { main := rest, child, inline })

/-- The reader as an iterator over groups. -/
def next (r : Reader) : Option (Except ReadError Group) × Reader :=
  match r.nextGroup with
  | (.ok none, r) => (none, r)
  | (.ok (some group), r) => (some (.ok group), r)
  | (.error e, r) => (some (.error e), r)

/-- The related rows left, children first. -/
def remaining (r : Reader) : Except ReadError (List RelatedRow) × Reader :=
  match r.child.drain with
  | (.error e, child) => (.error e, { r with child })
  | (.ok children, child) =>
    match r.inline.drain with
    | (.error e, inline) => (.error e, { r with child, inline })
    | (.ok inlines, inline) => (.ok (children ++ inlines), { r with child, inline })

end Reader

end LinkedDocs.Dataset
