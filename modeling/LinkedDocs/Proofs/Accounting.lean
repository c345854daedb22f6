import LinkedDocs.Proofs.Conservation
import LinkedDocs.Proofs.Tally

/-!
# Every row is accounted for

The rows that a reader hands out, call after call, and the row that it holds are
the first rows of each file; so the summary of an evaluation counts every row.

* `every_row_handed_out_once`: for any files and any sequence of calls that does
  not fail, and for every evaluation that yields a result.
-/

namespace LinkedDocs.Dataset

/-- The three files of a dataset as they stand. -/
structure Files where
  main : Entry
  child : Entry
  inline : Entry

namespace Files

/-- The data rows of the main file, good and bad. -/
def mainRows (f : Files) (headers : Bool) : List (Except Csv.Fault (List String)) :=
  Csv.rows headers f.main

/-- The file of a kind. -/
def related (f : Files) : RelatedKind → Entry
  | .child => f.child
  | .inline => f.inline

/-- The data rows of a related file, good and bad. -/
def relatedRows (f : Files) (headers : Bool) (kind : RelatedKind) :
    List (Except Csv.Fault (List String)) :=
  Csv.rows headers (f.related kind)

/-- A reader at the front of the files. -/
def reader (f : Files) (paths : Paths) (headers : Bool) : Reader :=
  Reader.ofEntries paths headers f.main f.child f.inline

/-- A directory `data` with the files, and nothing else. -/
def dataTree (f : Files) : FileTree :=
  [("main_doc.csv", f.main), ("child_doc.csv", f.child), ("inline_doc.csv", f.inline)].foldl
    (fun tree (name, entry) => tree.set ["data", name] entry) (({} : FileTree).set ["data"] .dir)

end Files

namespace Reader

variable {files : Files} {paths : Paths} {headers : Bool}

/-- A directory that opens has three files, and its reader stands at their front. -/
theorem openDir_ok {dir : String} {tree tree' : FileTree} {r : Reader}
    (h : openDir dir headers tree = (.ok r, tree')) :
    ∃ files : Files, r = files.reader (Paths.inDir dir) headers := by
  simp only [openDir, bind_ok_iff, pure_ok_iff] at h
  rcases h with ⟨main, _, -, child, _, -, inline, _, -, rfl, -⟩
  exact ⟨⟨main, child, inline⟩, rfl⟩

theorem rest_reader (kind : RelatedKind) :
    ((files.reader paths headers).related kind).rest =
      numbered (RelatedRow.ofFields kind (paths.related kind))
        (files.relatedRows headers kind) := by
  cases kind <;> simp [Files.reader, ofEntries, related, RelatedStream.rest, Files.relatedRows,
    Files.related, Paths.related]

/-- In the reader of a dataset each file holds rows of its own kind. -/
theorem kindsAgree_reader : (files.reader paths headers).KindsAgree := by
  intro kind row hrow
  rw [rest_reader] at hrow
  exact kind_of_mem_numbered hrow

/-- What was handed out of the main file opens it; without a rest it is the whole file. -/
theorem HandsOut.mains_open {mains : List MainRow} {handed : RelatedKind → List RelatedRow}
    {r : Reader} (h : HandsOut mains handed (files.reader paths headers) r) :
    MainRow.Opens mains (files.mainRows headers) ∧
      (r.main = [] → mains.length = (files.mainRows headers).length) := by
  have hmain : numbered (MainRow.ofFields paths.main) (files.mainRows headers) =
      mains.map .ok ++ r.main := h.main
  refine ⟨MainRow.opens_of_numbered hmain, fun hnil => ?_⟩
  have hlength := congrArg List.length hmain
  rw [numbered, length_numberedOnto, hnil] at hlength
  simpa using hlength.symm

/-- What was handed out of a related file opens it, with the row that is held. -/
theorem HandsOut.related_open {mains : List MainRow} {handed : RelatedKind → List RelatedRow}
    {r : Reader} (h : HandsOut mains handed (files.reader paths headers) r)
    (kind : RelatedKind) :
    ∃ taken, (handed kind).Perm taken ∧
      RelatedRow.Opens kind (taken ++ (r.related kind).pending.toList)
        (files.relatedRows headers kind) ∧
      ((r.related kind).rest = [] → taken.length = (files.relatedRows headers kind).length) := by
  rcases h.related kind with ⟨taken, hrest, hperm⟩
  rw [rest_reader] at hrest
  refine ⟨taken, hperm, ?_, fun hnil => ?_⟩
  · have hfeed : numbered (RelatedRow.ofFields kind (paths.related kind))
        (files.relatedRows headers kind) =
          (taken ++ (r.related kind).pending.toList).map .ok ++ (r.related kind).feed := by
      rw [hrest, RelatedStream.rest, List.map_append, List.append_assoc]
    exact RelatedRow.opens_of_numbered hfeed
  · have hlength := congrArg List.length hrest
    rw [numbered, length_numberedOnto, hnil] at hlength
    simpa using hlength.symm

/-- Reading to the end hands out everything. -/
theorem ReadsAll.handsOut {r : Reader} {groups : List Group} {left : List RelatedRow}
    (h : r.ReadsAll groups left) (hr : r.KindsAgree) :
    ∃ r', HandsOut (groups.map Group.main)
        (fun kind => groups.flatMap (Group.handed kind) ++ left.filter (·.kind = kind)) r r' ∧
      r'.main = [] ∧ ∀ kind, (r'.related kind).rest = [] := by
  -- The main file is at its end when no group comes, the related files after `remaining`.
  induction h with
  | done hnone hleft =>
    rcases nextGroup_none hnone with ⟨hmain, rfl⟩
    rcases remaining_handsOut hr hleft with ⟨hhands, hrest⟩
    refine ⟨_, hhands, ?_, hrest⟩
    have := hhands.main
    rw [hmain] at this
    simpa using this.symm
  | group hgroup _ ih =>
    have hhands := nextGroup_handsOut hr hgroup
    rcases ih (hhands.kindsAgree hr) with ⟨r', hhands', hmain, hrest⟩
    exact ⟨r', by simpa using hhands.trans hhands', hmain, hrest⟩

/-- What is read to the end has no bad row. -/
theorem ReadsAll.good {r : Reader} {groups : List Group} {left : List RelatedRow}
    (h : r.ReadsAll groups left) (hr : r.KindsAgree) :
    (∃ mains, r.main = List.map .ok mains) ∧
      ∀ kind, ∃ rows, (r.related kind).rest = List.map .ok rows := by
  obtain ⟨last, hhands, hmain, hrest⟩ := h.handsOut hr
  constructor
  · refine ⟨groups.map Group.main, ?_⟩
    rw [hhands.main, hmain, List.append_nil]
  · intro kind
    obtain ⟨taken, htaken, -⟩ := hhands.related kind
    rw [hrest, List.append_nil] at htaken
    exact ⟨taken, htaken⟩

end Reader

/--
What calls handed out, with the row that is held, is the front of each file: the
main rows in their order, the related rows of each kind in some order.
-/
structure Reader.Accounts (files : Files) (headers : Bool) (calls : List Reader.Call)
    (answers : List Reader.Answer) (r : Reader) : Prop where
  mains : MainRow.Opens (answers.flatMap Reader.Answer.mains) (files.mainRows headers)
  all_mains : .group none ∈ answers →
    (answers.flatMap Reader.Answer.mains).length = (files.mainRows headers).length
  related : ∀ kind, ∃ handed, (answers.flatMap (Reader.Answer.handed kind)).Perm handed ∧
    RelatedRow.Opens kind (handed ++ (r.related kind).pending.toList)
      (files.relatedRows headers kind) ∧
    (.remaining ∈ calls → handed.length = (files.relatedRows headers kind).length)

/-! ## Counting -/

/-- Each related row is of one of the two kinds. -/
theorem length_filter_kinds (rows : List RelatedRow) :
    (rows.filter (·.kind = .child)).length + (rows.filter (·.kind = .inline)).length =
      rows.length := by
  induction rows with
  | nil => rfl
  | cons row rows ih =>
    cases h : row.kind <;> simp [h] <;> omega

/-- The rows of both kinds in groups are their own rows and their orphans. -/
theorem length_handed_kinds (groups : List Group) :
    (groups.flatMap (Group.handed .child)).length +
        (groups.flatMap (Group.handed .inline)).length =
      (groups.flatMap Group.children).length + (groups.flatMap Group.inlines).length +
        (groups.flatMap Group.orphans).length := by
  induction groups with
  | nil => rfl
  | cons group groups ih =>
    have := length_filter_kinds group.orphans
    simp only [List.flatMap_cons, List.length_append, Group.handed, Group.related] at ih ⊢
    omega

end LinkedDocs.Dataset

namespace LinkedDocs.Evaluation

open Dataset

/-- The summary counts every row of the files. -/
structure CountsAll (files : Files) (headers : Bool) (s : Summary) : Prop where
  mainRows : s.mainRows = (files.mainRows headers).length
  relatedRows : s.childRows + s.inlineRows + s.orphanRows =
    (files.relatedRows headers .child).length + (files.relatedRows headers .inline).length
  deletedRows : s.deletedRows ≤ s.mainRows

/-- The summary of what was read to the end counts all of it. -/
theorem countsAll_of_readsAll {files : Files} {paths : Paths} {headers : Bool}
    {groups : List Group} {left : List RelatedRow} {t : Tally}
    (hall : (files.reader paths headers).ReadsAll groups left) (ht : t.summary = {}) :
    CountsAll files headers
      (left.foldl Tally.orphan (groups.foldl Tally.checkGroup t)).summary := by
  rcases hall.handsOut Reader.kindsAgree_reader with ⟨r', hhands, hmain, hrest⟩
  have hmains := hhands.mains_open.2 hmain
  rcases hhands.related_open .child with ⟨children, hpermc, -, hlengthc⟩
  rcases hhands.related_open .inline with ⟨inlines, hpermi, -, hlengthi⟩
  -- Each file is as long as what was handed out of it; what is left is to add up the kinds.
  have hcountc := hpermc.length_eq.trans (hlengthc (hrest .child))
  have hcounti := hpermi.length_eq.trans (hlengthi (hrest .inline))
  have hleft := length_filter_kinds left
  have hgroups := length_handed_kinds groups
  have hdeleted := List.countP_le_length (l := groups.map Group.main)
    (p := fun row => deletedFlag? row.deleted = some true)
  simp only [Tally.summary_orphans, Tally.summary_checkGroups, ht, Tally.rowCount,
    Tally.deletedCount]
  simp only [List.length_append, List.length_map] at hcountc hcounti hmains hdeleted
  constructor <;> dsimp only <;> omega

/--
Whatever the files hold and the order of the calls, if none of them fails, no
row is lost, handed out twice or changed; after `remaining` every related row was
handed out. So an evaluation that yields a result has counted every row.
-/
theorem every_row_handed_out_once :
    (∀ files paths headers calls answers r,
      (files.reader paths headers).answers calls = .ok (answers, r) →
        Reader.Accounts files headers calls answers r) ∧
    (∀ options dir session session' result, run options dir session = (.ok result, session') →
      ∃ files : Files, ∃ tree, Reader.openDir dir options.headers session.tree =
          (.ok (files.reader (Paths.inDir dir) options.headers), tree) ∧
        CountsAll files options.headers result.summary) := by
  constructor
  · -- any sequence of calls: what it handed out is the front of each file
    intro files paths headers calls answers r h
    rcases Reader.answers_handsOut Reader.kindsAgree_reader h with ⟨hhands, hnone, hleft⟩
    refine ⟨hhands.mains_open.1, fun hmem => hhands.mains_open.2 (hnone hmem), fun kind => ?_⟩
    rcases hhands.related_open kind with ⟨taken, hperm, hopens, hlength⟩
    exact ⟨taken, hperm, hopens, fun hmem => hlength (hleft hmem kind)⟩
  · -- an evaluation reads to the end, so what was handed out is the whole of each file
    intro options dir session session' result hrun
    rcases run_ok_iff.1 ⟨session', hrun⟩ with ⟨reader, tree, t, hopen, htally, rfl, -⟩
    rcases Reader.openDir_ok hopen with ⟨files, rfl⟩
    rcases tallyReader_ok_iff.1 htally with ⟨groups, left, hall, rfl⟩
    exact ⟨files, tree, hopen, countsAll_of_readsAll hall rfl⟩

/-- Files with a stray child between two others, and an inline row of a document that is missing. -/
def strayFiles : Files where
  main := .file "ID000000,a,b,c,d,e,f,g\nID000001,a,b,c,d,e,f,g\n".toByteArray
  child := .file "C0,ID000000,v,w\nC1,stray,v,w\nC2,ID000001,v,w\n".toByteArray
  inline := .file "I0,ID000007,v,w\n".toByteArray

/-- Calls that leave an inline row pending, and an evaluation of the same files: no row is lost. -/
theorem stray_rows_accounted_for :
    (∃ answers r, (strayFiles.reader (Paths.inDir "data") false).answers [.nextGroup, .next] =
        .ok (answers, r) ∧ r.inline.pending.isSome ∧
        Reader.Accounts strayFiles false [.nextGroup, .next] answers r) ∧
    (∃ result session', run { strict := false } "data" { tree := strayFiles.dataTree } =
        (.ok result, session') ∧
      ∃ files : Files, ∃ tree, Reader.openDir "data" false strayFiles.dataTree =
          (.ok (files.reader (Paths.inDir "data") false), tree) ∧
        CountsAll files false result.summary) := by
  constructor
  · have hok : ((strayFiles.reader (Paths.inDir "data") false).answers
        [.nextGroup, .next]).toOption.any (·.2.inline.pending.isSome) = true := by
      decide +kernel
    rcases exists_ok_of_any hok with ⟨⟨answers, r⟩, h, hpending⟩
    exact ⟨answers, r, h, hpending, every_row_handed_out_once.1 _ _ _ _ _ _ h⟩
  · have hok : (run { strict := false } "data" { tree := strayFiles.dataTree }).1.toOption.any
        (fun _ => true) = true := by
      decide +kernel
    rcases exists_ok_of_fst_any hok with ⟨result, session', h, -⟩
    have hcounts := every_row_handed_out_once.2 _ _ _ _ _ h
    exact ⟨result, session', h, hcounts⟩

end LinkedDocs.Evaluation
