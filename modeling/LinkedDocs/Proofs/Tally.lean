import LinkedDocs.Evaluation.Run
import LinkedDocs.Proofs.Lockstep
import LinkedDocs.Proofs.SoundRows
import LinkedDocs.Proofs.Work

/-!
# What a tally holds

The tally of a dataset is that of its groups, one after the other, and of the
rows that no group took. Each check is described by what it adds to the summary,
to the ids and to the number of violations.

* `tallyReader_ok_iff`: the tally is a fold over what `ReadsAll` reads.
* `summary_checkGroup`, `summary_checkGroups`: the numbers of rows.
* `checkGroups_clean_iff`: no violation was found exactly if every group passes
  and no id occurs twice.
* `run_ok_iff`: when an evaluation yields a result, and which.
-/

namespace LinkedDocs.Evaluation

open Dataset

namespace Tally

variable {t : Tally}

/-! ## Reports -/

@[simp] theorem violationCount_reportAll (violations : List Violation) :
    (t.reportAll violations).violationCount = t.violationCount + violations.length := by
  induction violations generalizing t with
  | nil => rfl
  | cons v rest ih =>
    rw [reportAll, List.foldl_cons]
    exact (ih (t := t.report v)).trans (by simp [report]; omega)

@[simp] theorem summary_reportAll (violations : List Violation) :
    (t.reportAll violations).summary = t.summary := by
  induction violations generalizing t with
  | nil => rfl
  | cons v rest ih => exact ih (t := t.report v)

@[simp] theorem hasSeen_reportAll (violations : List Violation) (id : String) :
    (t.reportAll violations).hasSeen id = t.hasSeen id := by
  induction violations generalizing t with
  | nil => rfl
  | cons v rest ih => exact ih (t := t.report v)

@[simp] theorem violationCount_count (change : Summary → Summary) :
    (t.count change).violationCount = t.violationCount := rfl

@[simp] theorem summary_count (change : Summary → Summary) :
    (t.count change).summary = change t.summary := rfl

@[simp] theorem hasSeen_count (change : Summary → Summary) (id : String) :
    (t.count change).hasSeen id = t.hasSeen id := rfl

@[simp] theorem violationCount_see (id : String) :
    (t.see id).violationCount = t.violationCount := rfl

@[simp] theorem summary_see (id : String) : (t.see id).summary = t.summary := rfl

@[simp] theorem hasSeen_see (id other : String) :
    (t.see id).hasSeen other = true ↔ other = id ∨ t.hasSeen other = true := by
  simp only [see, hasSeen, Std.HashSet.contains_insert, Bool.or_eq_true, beq_iff_eq]
  rw [eq_comm]

/-! ## Batches -/

@[simp] theorem summary_checkRows (kind : RelatedKind) (parent sequence : Nat)
    (rows : List RelatedRow) : (t.checkRows kind parent sequence rows).summary = t.summary := by
  induction rows generalizing t sequence with
  | nil => rfl
  | cons row rest ih => simp [checkRows, ih]

@[simp] theorem hasSeen_checkRows (kind : RelatedKind) (parent sequence : Nat)
    (rows : List RelatedRow) (id : String) :
    (t.checkRows kind parent sequence rows).hasSeen id = true ↔
      id ∈ rows.map (·.id) ∨ t.hasSeen id = true := by
  induction rows generalizing t sequence with
  | nil => simp [checkRows]
  | cons row rest ih =>
    simp only [checkRows, ih, hasSeen_reportAll, hasSeen_see, List.map_cons, List.mem_cons]
    tauto

/-- The ids are new to the tally, and no two of them are equal. -/
def AreNew (t : Tally) (ids : List String) : Prop :=
  ids.Nodup ∧ ∀ id ∈ ids, t.hasSeen id = false

theorem areNew_nil : t.AreNew [] := ⟨List.nodup_nil, by simp⟩

/-- New ids in two parts: the second part is new once the first is known. -/
theorem areNew_append {u : Tally} {ids ids' : List String}
    (h : ∀ id, u.hasSeen id = true ↔ id ∈ ids ∨ t.hasSeen id = true) :
    t.AreNew (ids ++ ids') ↔ t.AreNew ids ∧ u.AreNew ids' := by
  simp only [AreNew, List.nodup_append, ← Bool.not_eq_true, h, List.mem_append]
  constructor
  · rintro ⟨⟨hn, hn', hdisjoint⟩, hseen⟩
    refine ⟨⟨hn, fun id hid => hseen id (.inl hid)⟩, hn', fun id hid hor => ?_⟩
    rcases hor with hid' | hid'
    · exact hdisjoint id hid' id hid rfl
    · exact hseen id (.inr hid) hid'
  · rintro ⟨⟨hn, hseen⟩, hn', hseen'⟩
    refine ⟨⟨hn, hn', ?_⟩, ?_⟩
    · rintro id hid _ hid' rfl
      exact hseen' id hid' (.inl hid)
    · rintro id (hid | hid)
      · exact hseen id hid
      · exact fun hor => hseen' id hid (.inr hor)

theorem areNew_singleton {id : String} : t.AreNew [id] ↔ t.hasSeen id = false := by
  simp [AreNew]

/-- Rows from place `sequence` on pass exactly if each has the id of its place and is sound. -/
theorem checkRows_clean_iff {kind : RelatedKind} {parent sequence : Nat}
    {rows : List RelatedRow} :
    (t.checkRows kind parent sequence rows).violationCount = 0 ↔
      t.violationCount = 0 ∧
      (∀ j (h : j < rows.length),
        rows[j].id = DocId.related kind parent (word32 (sequence + j))) ∧
      (∀ row ∈ rows, SoundRelated row) ∧ t.AreNew (rows.map (·.id)) := by
  induction rows generalizing t sequence with
  | nil => simp [checkRows, areNew_nil]
  | cons row rest ih =>
    -- After the first row its id is seen, besides those seen before.
    have hseen : ∀ id, ((t.see row.id).reportAll
        (relatedViolations kind parent sequence row (t.hasSeen row.id))).hasSeen id = true ↔
          id ∈ [row.id] ∨ t.hasSeen id = true := by simp
    have hplaces := @forall_getElem_cons _
      (fun j (row : RelatedRow) => row.id = DocId.related kind parent (word32 j)) sequence row rest
    rw [checkRows, ih, hplaces, List.map_cons, ← List.singleton_append (l := rest.map _),
      areNew_append hseen, areNew_singleton, List.forall_mem_cons]
    simp only [violationCount_reportAll, violationCount_see, Nat.add_eq_zero_iff,
      List.length_eq_zero_iff, relatedViolations_eq_nil_iff]
    tauto

theorem summary_checkBatch (kind : RelatedKind) (main : MainRow) (parent : Nat)
    (rows : List RelatedRow) :
    (t.checkBatch kind main parent rows).summary = addRows kind rows.length t.summary := by
  simp [checkBatch]

theorem hasSeen_checkBatch (kind : RelatedKind) (main : MainRow) (parent : Nat)
    (rows : List RelatedRow) (id : String) :
    (t.checkBatch kind main parent rows).hasSeen id = true ↔
      id ∈ rows.map (·.id) ∨ t.hasSeen id = true := by
  simp [checkBatch]

/-- A batch adds nothing to a clean tally exactly if it is sound and its ids are new. -/
theorem checkBatch_clean_iff {kind : RelatedKind} {main : MainRow} {parent : Nat}
    {rows : List RelatedRow} :
    (t.checkBatch kind main parent rows).violationCount = 0 ↔
      t.violationCount = 0 ∧ SoundBatch kind parent rows ∧ t.AreNew (rows.map (·.id)) := by
  rw [checkBatch, checkRows_clean_iff]
  simp only [violationCount_reportAll, violationCount_count, Nat.add_eq_zero_iff,
    List.length_eq_zero_iff, sizeViolations_eq_nil_iff, Nat.zero_add, AreNew, hasSeen_reportAll,
    hasSeen_count]
  constructor
  · rintro ⟨⟨ht, hsize⟩, hid, hsound, hnew⟩
    exact ⟨ht, ⟨hsize, hid, hsound⟩, hnew⟩
  · rintro ⟨ht, ⟨hsize, hid, hsound⟩, hnew⟩
    exact ⟨⟨ht, hsize⟩, hid, hsound, hnew⟩

/-! ## Groups -/

@[simp] theorem violationCount_orphan (row : RelatedRow) :
    (t.orphan row).violationCount = t.violationCount + 1 := rfl

@[simp] theorem hasSeen_orphan (row : RelatedRow) (id : String) :
    (t.orphan row).hasSeen id = t.hasSeen id := rfl

@[simp] theorem violationCount_orphans (rows : List RelatedRow) :
    (rows.foldl orphan t).violationCount = t.violationCount + rows.length := by
  induction rows generalizing t with
  | nil => rfl
  | cons row rest ih =>
    rw [List.foldl_cons, ih, violationCount_orphan, List.length_cons]
    omega

@[simp] theorem hasSeen_orphans (rows : List RelatedRow) (id : String) :
    (rows.foldl orphan t).hasSeen id = t.hasSeen id := by
  induction rows generalizing t with
  | nil => rfl
  | cons row rest ih => rw [List.foldl_cons, ih, hasSeen_orphan]

theorem summary_orphans (rows : List RelatedRow) :
    (rows.foldl orphan t).summary =
      { t.summary with orphanRows := t.summary.orphanRows + rows.length } := by
  induction rows generalizing t with
  | nil => rfl
  | cons row rest ih =>
    rw [List.foldl_cons, ih]
    simp [orphan, report, count]
    omega

theorem summary_checkMain (row : MainRow) (expected : Nat) :
    (t.checkMain row expected).summary =
      { t.summary with
        deletedRows := t.summary.deletedRows +
          if deletedFlag? row.deleted = some true then 1 else 0 } := by
  simp [checkMain]

theorem hasSeen_checkMain (row : MainRow) (expected : Nat) (id : String) :
    (t.checkMain row expected).hasSeen id = true ↔ id = row.id ∨ t.hasSeen id = true := by
  simp [checkMain]

/-- A main row adds nothing to a clean tally exactly if its id is right and new, and it is sound. -/
theorem checkMain_clean_iff {row : MainRow} {expected : Nat} :
    (t.checkMain row expected).violationCount = 0 ↔
      t.violationCount = 0 ∧ row.id = DocId.main expected ∧ SoundMain row ∧
        t.hasSeen row.id = false := by
  simp only [checkMain, violationCount_reportAll, violationCount_count, violationCount_see,
    Nat.add_eq_zero_iff, List.length_eq_zero_iff, mainViolations_eq_nil_iff]
  tauto

/-- The index that the related rows of a group are held against. -/
def parentIndex (group : Group) (expected : Nat) : Nat := group.main.index?.getD expected

/-- The ids of a group, in the order in which they are checked. -/
def groupIds (group : Group) : List String :=
  [group.main.id] ++ (group.children.map (·.id) ++ group.inlines.map (·.id))

/-- A group passes as group number `expected`, but for ids that repeat. -/
structure Passes (group : Group) (expected : Nat) : Prop where
  id_eq : group.main.id = DocId.main expected
  main : SoundMain group.main
  children : SoundBatch .child (parentIndex group expected) group.children
  inlines : SoundBatch .inline (parentIndex group expected) group.inlines
  orphans : group.orphans = []

/-- A group adds its rows to the numbers of rows. -/
theorem summary_checkGroup (group : Group) :
    (t.checkGroup group).summary =
      { mainRows := t.summary.mainRows + 1
        childRows := t.summary.childRows + group.children.length
        inlineRows := t.summary.inlineRows + group.inlines.length
        orphanRows := t.summary.orphanRows + group.orphans.length
        deletedRows := t.summary.deletedRows +
          if deletedFlag? group.main.deleted = some true then 1 else 0 } := by
  simp only [checkGroup, summary_orphans, summary_checkBatch, summary_checkMain, summary_count,
    addRows]

theorem hasSeen_checkGroup (group : Group) (id : String) :
    (t.checkGroup group).hasSeen id = true ↔ id ∈ groupIds group ∨ t.hasSeen id = true := by
  simp only [checkGroup, hasSeen_orphans, hasSeen_checkBatch, hasSeen_checkMain, hasSeen_count,
    groupIds, List.mem_append, List.mem_singleton]
  tauto

/-- A group adds nothing to a clean tally exactly if it passes and its ids are new. -/
theorem checkGroup_clean_iff {group : Group} :
    (t.checkGroup group).violationCount = 0 ↔
      t.violationCount = 0 ∧ Passes group t.summary.mainRows ∧ t.AreNew (groupIds group) := by
  rw [groupIds, areNew_append (u := (t.count _).checkMain group.main t.summary.mainRows)
      (fun id => by rw [hasSeen_checkMain, hasSeen_count, List.mem_singleton]),
    areNew_append (fun id => hasSeen_checkBatch .child group.main _ group.children id),
    areNew_singleton]
  simp only [checkGroup, violationCount_orphans, Nat.add_eq_zero_iff, List.length_eq_zero_iff,
    checkBatch_clean_iff, checkMain_clean_iff, violationCount_count, hasSeen_count]
  constructor
  · rintro ⟨⟨⟨⟨ht, hid, hmain, hseen⟩, hchildren, hnewc⟩, hinlines, hnewi⟩, horphans⟩
    exact ⟨ht, ⟨hid, hmain, hchildren, hinlines, horphans⟩, hseen, hnewc, hnewi⟩
  · rintro ⟨ht, ⟨hid, hmain, hchildren, hinlines, horphans⟩, hseen, hnewc, hnewi⟩
    exact ⟨⟨⟨⟨ht, hid, hmain, hseen⟩, hchildren, hnewc⟩, hinlines, hnewi⟩, horphans⟩

/-- The deleted ones among main rows. -/
def deletedCount (mains : List MainRow) : Nat :=
  mains.countP fun row => deletedFlag? row.deleted = some true

/-- The number of rows of a list that each group has. -/
def rowCount (rows : Group → List RelatedRow) (groups : List Group) : Nat :=
  (groups.flatMap rows).length

theorem summary_checkGroups (groups : List Group) :
    (groups.foldl checkGroup t).summary =
      { mainRows := t.summary.mainRows + groups.length
        childRows := t.summary.childRows + rowCount Group.children groups
        inlineRows := t.summary.inlineRows + rowCount Group.inlines groups
        orphanRows := t.summary.orphanRows + rowCount Group.orphans groups
        deletedRows := t.summary.deletedRows + deletedCount (groups.map Group.main) } := by
  induction groups generalizing t with
  | nil => rfl
  | cons group groups ih =>
    rw [List.foldl_cons, ih, summary_checkGroup]
    simp only [rowCount, deletedCount, List.flatMap_cons, List.length_append, List.map_cons,
      List.countP_cons, List.length_cons, decide_eq_true_eq, Summary.mk.injEq]
    omega

/-- No violation is found exactly if every group passes in its place and no id repeats. -/
theorem checkGroups_clean_iff {groups : List Group} :
    (groups.foldl checkGroup t).violationCount = 0 ↔
      t.violationCount = 0 ∧
      (∀ i (h : i < groups.length), Passes groups[i] (t.summary.mainRows + i)) ∧
      t.AreNew (groups.flatMap groupIds) := by
  induction groups generalizing t with
  | nil => simp [areNew_nil]
  | cons group groups ih =>
    have hplaces := @forall_getElem_cons _ (fun i group => Passes group i) t.summary.mainRows group
      groups
    rw [List.foldl_cons, ih, checkGroup_clean_iff, summary_checkGroup, hplaces, List.flatMap_cons,
      areNew_append fun id => hasSeen_checkGroup group id]
    tauto

end Tally

/-! ## The tally of a reader -/

/-- A tally that succeeds is that of the groups that are read. -/
theorem tallyGroups_ok {n : Nat} {t t' : Tally} {r r' r'' : Reader} {left : List RelatedRow}
    (h : tallyGroups n t r = .ok (t', r')) (hn : r.main.length < n)
    (hleft : r'.remaining = (.ok left, r'')) :
    ∃ groups, r.ReadsAll groups left ∧ t' = groups.foldl Tally.checkGroup t := by
  -- Each group takes a main row, so the number of groups left suffices for the main rows left.
  induction n generalizing t r with
  | zero => exact absurd hn (Nat.not_lt_zero _)
  | succ n ih =>
    rw [tallyGroups] at h
    split at h
    · simp at h
    · rename_i r₁ hnone
      rcases Prod.mk.inj (Except.ok.inj h) with ⟨rfl, rfl⟩
      exact ⟨[], .done hnone hleft, rfl⟩
    · rename_i group r₁ hgroup
      have hmain := congrArg List.length (Reader.nextGroup_ok hgroup).1
      rw [List.length_cons] at hmain
      rcases ih h (by omega) with ⟨groups, hall, rfl⟩
      exact ⟨group :: groups, .group hgroup hall, rfl⟩

/-- Where all groups can be read, their tally succeeds. -/
theorem tallyGroups_of_readsAll {n : Nat} {t : Tally} {r : Reader} {groups : List Group}
    {left : List RelatedRow} (h : r.ReadsAll groups left) (hn : r.main.length < n) :
    ∃ r' r'', tallyGroups n t r = .ok (groups.foldl Tally.checkGroup t, r') ∧
      r'.remaining = (.ok left, r'') := by
  induction h generalizing n t with
  | done hnone hleft =>
    rcases Nat.exists_eq_add_one_of_ne_zero (Nat.ne_of_gt (Nat.zero_lt_of_lt hn)) with ⟨n, rfl⟩
    exact ⟨_, _, by rw [tallyGroups, hnone]; rfl, hleft⟩
  | group hgroup _ ih =>
    rcases Nat.exists_eq_add_one_of_ne_zero (Nat.ne_of_gt (Nat.zero_lt_of_lt hn)) with ⟨n, rfl⟩
    have hmain := congrArg List.length (Reader.nextGroup_ok hgroup).1
    rw [List.length_cons] at hmain
    rcases ih (n := n) (by omega) with ⟨r', r'', htally, hleft⟩
    exact ⟨r', r'', by rw [tallyGroups, hgroup]; exact htally, hleft⟩

/-- The tally of a reader is that of its groups, and then of the rows that are left. -/
theorem tallyReader_ok_iff {t t' : Tally} {r : Reader} :
    tallyReader t r = .ok t' ↔ ∃ groups left, r.ReadsAll groups left ∧
      t' = left.foldl Tally.orphan (groups.foldl Tally.checkGroup t) := by
  constructor
  · intro h
    rw [tallyReader] at h
    split at h
    · simp at h
    rename_i t₁ r₁ hgroups
    split at h
    · simp at h
    rename_i left r₂ hleft
    rcases tallyGroups_ok hgroups (Nat.lt_succ_self _) hleft with ⟨groups, hall, rfl⟩
    exact ⟨groups, left, hall, (Except.ok.inj h).symm⟩
  · rintro ⟨groups, left, hall, rfl⟩
    rcases tallyGroups_of_readsAll (t := t) hall (Nat.lt_succ_self _) with ⟨r', r'', htally, hleft⟩
    rw [tallyReader, htally]
    simp only [hleft]

/-! ## The result of an evaluation -/

/-- An evaluation that succeeds is that of the reader of its directory. -/
theorem tallyDir_ok_iff {options : Options} {dir : String} {session session' : Session}
    {t : Tally} :
    tallyDir options dir session = (.ok t, session') ↔
      ∃ reader tree, Reader.openDir dir options.headers session.tree = (.ok reader, tree) ∧
        tallyReader { most := options.maxExamples } reader = .ok t ∧
        session' = { session with tree } := by
  rw [tallyDir, bind_ok_iff]
  constructor
  · rintro ⟨reader, session₁, hwork, h⟩
    rcases SessionWork.onTree_ok_iff.1 hwork with ⟨tree, hopen, rfl⟩
    cases htally : tallyReader { most := options.maxExamples } reader with
    | error e =>
      rw [htally] at h
      exact absurd h throw_ne_ok
    | ok t' =>
      rw [htally] at h
      rcases pure_ok_iff.1 h with ⟨rfl, rfl⟩
      exact ⟨reader, tree, hopen, htally, rfl⟩
  · rintro ⟨reader, tree, hopen, htally, rfl⟩
    refine ⟨reader, _, SessionWork.onTree_ok_iff.2 ⟨tree, hopen, rfl⟩, ?_⟩
    rw [htally]
    rfl

/-- A result is given out unless strictness turns its violations into an error. -/
theorem verdict_ok_iff {strict : Bool} {found result : Result} {session session' : Session} :
    (if strict && !found.isClean then do
        logViolations found.violations
        throw (.violations found.violationCount)
        pure found
      else pure found : SessionWork Error Result) session = (.ok result, session') ↔
      result = found ∧ session' = session ∧ (strict = true → found.violationCount = 0) := by
  -- Strictness turns the result into an error exactly if there is a violation.
  have hclean :
      (strict && !found.isClean) = false ↔ (strict = true → found.violationCount = 0) := by
    cases strict <;> simp [Result.isClean]
  cases hc : strict && !found.isClean with
  | false =>
    have hstrict := hclean.1 hc
    rw [if_neg Bool.false_ne_true, pure_ok_iff]
    tauto
  | true =>
    constructor
    · intro h
      rcases bind_ok_iff.1 h with ⟨_, _, -, h⟩
      rcases bind_ok_iff.1 h with ⟨_, _, h, -⟩
      exact absurd h throw_ne_ok
    · rintro ⟨-, -, h⟩
      rw [hclean.2 h] at hc
      exact absurd hc Bool.false_ne_true

/-- The result of an evaluation, if the directory opens, no row is bad, and strictness allows it. -/
theorem run_ok_iff {options : Options} {dir : String} {session : Session} {result : Result} :
    (∃ session', run options dir session = (.ok result, session')) ↔
      ∃ reader tree t, Reader.openDir dir options.headers session.tree = (.ok reader, tree) ∧
        tallyReader { most := options.maxExamples } reader = .ok t ∧ result = t.toResult dir ∧
        (options.strict = true → t.violationCount = 0) := by
  simp only [run, bind_ok_iff, SessionWork.log_ok_iff, tallyDir_ok_iff]
  constructor
  · rintro ⟨_, _, _, rfl, t, _, ⟨reader, tree, hopen, htally, rfl⟩, _, _, rfl, hverdict⟩
    rcases verdict_ok_iff.1 hverdict with ⟨rfl, -, hstrict⟩
    exact ⟨reader, tree, t, hopen, htally, rfl, hstrict⟩
  · rintro ⟨reader, tree, t, hopen, htally, rfl, hstrict⟩
    exact ⟨_, (), _, rfl, t, _, ⟨reader, tree, hopen, htally, rfl⟩, (), _, rfl,
      verdict_ok_iff.2 ⟨rfl, rfl, hstrict⟩⟩

end LinkedDocs.Evaluation
