import LinkedDocs.Generation.Run
import LinkedDocs.Proofs.Documents

/-!
# What a run draws and writes

What is drawn depends on the source alone, not on what was written before. So a
run is described in two parts: the documents drawn from its source, in the order
of their indices, and their rows behind what is written.

* `drawDocuments`: the documents of a run.
* `writeDocuments_eq`: writing documents is drawing them and adding their rows.
* `drawDocuments_add`: more documents are drawn from what the others left.
* `yields_drawDocuments`: what is drawn passes its evaluation.
-/

namespace LinkedDocs.Generation

open Dataset Evaluation LinkedDocs.Random LinkedDocs.Random.Draw Calendar

/-- A main document with its batches. -/
structure Document where
  main : MainRecord
  related : RelatedKind → List RelatedRecord

variable {σ : Type}

/-! ## Adding to a run in progress -/

/-- The run with the rows of these documents behind what is written, and counted. -/
def Progress.add (p : Progress σ) (source : Source σ) (mains : List MainRecord)
    (batches : RelatedKind → List RelatedRecord) : Progress σ where
  source
  writer := p.writer.writeRows mains batches
  rows := {
    main := p.rows.main + mains.length
    child := p.rows.child + (batches .child).length
    inline := p.rows.inline + (batches .inline).length
    deleted := p.rows.deleted + mains.countP (·.deleted) }

/-- The run after these documents, each main document with its batches. -/
def Progress.addDocuments (p : Progress σ) (source : Source σ) (docs : List Document) :
    Progress σ :=
  p.add source (docs.map Document.main) fun kind => docs.flatMap (Document.related · kind)

namespace Progress

variable {p : Progress σ} {s s' : Source σ} {w : Writer} {rows : RowCounts}

theorem source_add {mains : List MainRecord} {batches : RelatedKind → List RelatedRecord} :
    (p.add s mains batches).source = s := rfl

/-- Adding no documents leaves the files and the counts as they are. -/
theorem add_nothing : p.add s [] (fun _ => []) = ⟨s, p.writer, p.rows⟩ := by
  unfold add
  rw [Writer.writeRows_nothing]
  rfl

/-- Documents added in two steps are added in one. -/
theorem add_add {mains mains' : List MainRecord}
    {batches batches' : RelatedKind → List RelatedRecord} :
    (p.add s mains batches).add s' mains' batches' =
      p.add s' (mains ++ mains') fun kind => batches kind ++ batches' kind := by
  simp only [add, Writer.writeRows_append, List.length_append, List.countP_append, Nat.add_assoc]

/-- To write a main document is to add it alone. -/
theorem add_main (before : Source σ) (record : MainRecord) :
    (⟨s, w.writeMain record, rows.addMain record.deleted⟩ : Progress σ) =
      (⟨before, w, rows⟩ : Progress σ).add s [record] fun _ => [] := by
  unfold add
  rw [Writer.writeMain_eq, List.countP_singleton]
  rfl

/-- To write a related document is to add it alone. -/
theorem add_related (before : Source σ) (kind : RelatedKind) (record : RelatedRecord) :
    (⟨s, w.writeRelated kind record, rows.addRelated kind⟩ : Progress σ) =
      (⟨before, w, rows⟩ : Progress σ).add s [] (only kind [record]) := by
  unfold add
  rw [Writer.writeRelated_eq]
  cases kind <;> rfl

end Progress

/-! ## Drawing documents -/

variable [WordStream σ]

/-- A batch is opened at its front, with a length within its bounds. -/
theorem start_ok {kind : RelatedKind} {index : Nat} {s t : Source σ} {b : Generator.Batch}
    (h : Generator.Batch.start kind index s = .ok (b, t)) :
    ∃ length, b = { kind, parent := index, length } ∧
      kind.bounds.least ≤ length ∧ length ≤ kind.bounds.most := by
  have hrange : kind.bounds.most - kind.bounds.least + 1 < UInt32.size := by
    cases kind <;> decide
  unfold Generator.Batch.start at h
  rcases Draw.bind_ok_iff.1 h with ⟨length, u, hlength, hpure⟩
  rcases Draw.pure_ok_iff.1 hpure with ⟨rfl, -⟩
  exact ⟨length, rfl, yields_within hrange _ _ _ hlength⟩

variable [Lexicon σ]

/-- What the next document of a batch is, and when there is none. -/
theorem next?_ok {b : Generator.Batch} {s t : Source σ}
    {next : Option (RelatedRecord × Generator.Batch)} (h : b.next? s = .ok (next, t)) :
    (next = none ∧ b.length ≤ b.taken) ∨
      ∃ r, next = some (r, { b with taken := b.taken + 1 }) ∧ b.taken < b.length ∧
        GoodRelated b.kind b.parent b.taken r := by
  unfold Generator.Batch.next? at h
  by_cases hmore : b.taken < b.length
  · right
    rw [if_pos hmore] at h
    rcases Draw.bind_ok_iff.1 h with ⟨r, u, hr, hpure⟩
    rcases Draw.pure_ok_iff.1 hpure with ⟨rfl, -⟩
    exact ⟨r, rfl, hmore, yields_relatedRecord _ _ _ _ _ _ hr⟩
  · left
    rw [if_neg hmore] at h
    rcases Draw.pure_ok_iff.1 h with ⟨rfl, -⟩
    exact ⟨rfl, Nat.le_of_not_lt hmore⟩

/-- Draws main document `index`, and then its batches. -/
def drawDocument (reference : DateTime) (index : Nat) : Draw σ Document := do
  let main ← Generator.mainRecord reference index
  let children ← Generator.relatedRecords .child index
  let inlines ← Generator.relatedRecords .inline index
  return {
    main
    related := fun
      | .child => children
      | .inline => inlines }

/-- Draws `n` main documents from `index` on, each with its batches. -/
def drawDocuments (reference : DateTime) (index n : Nat) : Draw σ (List Document) :=
  match n with
  | 0 => return []
  | n + 1 => do
    let d ← drawDocument reference index
    let docs ← drawDocuments reference (index + 1) n
    return d :: docs

/-- More documents are drawn from what the first ones left of the source. -/
theorem drawDocuments_add (reference : DateTime) (index n k : Nat) :
    (drawDocuments reference index (n + k) : Draw σ (List Document)) = (do
      let docs ← drawDocuments reference index n
      let more ← drawDocuments reference (index + n) k
      return docs ++ more) := by
  induction n generalizing index with
  | zero =>
    rw [Nat.zero_add, Nat.add_zero, drawDocuments]
    simp only [pure_bind, List.nil_append, bind_pure]
  | succ n ih =>
    have hindex : index + (n + 1) = index + 1 + n := by omega
    rw [Nat.add_right_comm, drawDocuments, ih, drawDocuments, hindex]
    simp only [bind_assoc, pure_bind, List.cons_append]

/-! ## Writing what is drawn -/

/-- Writing documents of a batch is drawing them, and then adding their rows. -/
theorem writeBatch_eq (b : Generator.Batch) (n : Nat) (p : Progress σ) :
    writeBatch b n p = (b.take n p.source).map fun drawn =>
      p.add drawn.2 [] (only b.kind drawn.1.1) := by
  induction n generalizing b p with
  | zero =>
    show Except.ok p = .ok (p.add p.source [] (only b.kind []))
    rw [only_nil, Progress.add_nothing]
  | succ n ih =>
    rcases p with ⟨source, w, rows⟩
    rw [writeBatch, Generator.Batch.take, Draw.bind_eq]
    rcases hnext : b.next? source with fault | ⟨- | ⟨record, rest⟩, source'⟩
    · rfl
    · -- the batch is at its end
      show Except.ok (⟨source', w, rows⟩ : Progress σ) =
        .ok ((⟨source, w, rows⟩ : Progress σ).add source' [] (only b.kind []))
      rw [only_nil, Progress.add_nothing]
    · -- one document, and then the rest of the batch
      have hkind : rest.kind = b.kind := by
        rcases next?_ok hnext with ⟨hnone, -⟩ | ⟨r, hr, -⟩
        · cases hnone
        · rw [(Prod.mk.inj (Option.some.inj hr)).2]
      show writeBatch rest n
          ⟨source', w.writeRelated rest.kind record, rows.addRelated rest.kind⟩ =
        Except.map _ ((rest.take n >>= fun drawn =>
          pure (record :: drawn.1, drawn.2) : Draw σ _) source')
      rw [Progress.add_related source, ih, Draw.bind_eq, hkind]
      show Except.map _ (rest.take n source') = _
      rcases rest.take n source' with fault | ⟨⟨records, last⟩, source''⟩
      · rfl
      · show Except.ok (Progress.add (Progress.add _ _ _ _) _ _ _) = _
        rw [Progress.add_add, only_append]
        rfl

/-- Writing the batches of documents is drawing them, and then adding their rows. -/
theorem writeBatches_cons (index : Nat) (kind : RelatedKind) (kinds : List RelatedKind)
    (p : Progress σ) :
    writeBatches index (kind :: kinds) p =
      Generator.relatedRecords kind index p.source >>= fun (records, source) =>
        writeBatches index kinds (p.add source [] (only kind records)) := by
  rcases p with ⟨source, w, rows⟩
  rw [writeBatches, Generator.relatedRecords, Draw.bind_eq]
  cases hstart : Generator.Batch.start kind index source with
  | error fault => rfl
  | ok opened =>
    rcases opened with ⟨b, source'⟩
    rcases start_ok hstart with ⟨length, rfl, -⟩
    dsimp only
    rw [writeBatch_eq, ok_bind, Draw.bind_eq]
    dsimp only
    cases Generator.Batch.take _ length source' with
    | error fault => rfl
    | ok taken => rfl

/-- Writing a document is drawing it, and then adding its rows. -/
theorem writeDocument_eq (reference : DateTime) (index : Nat) (p : Progress σ) :
    writeDocument reference index p = (drawDocument reference index p.source).map
      fun (d, source) => p.add source [d.main] d.related := by
  rcases p with ⟨source₀, w, rows⟩
  rw [writeDocument, drawDocument, Draw.bind_eq]
  cases Generator.mainRecord reference index source₀ with
  | error fault => rfl
  | ok drawn =>
    rcases drawn with ⟨main, source⟩
    rw [ok_bind, Draw.bind_eq]
    dsimp only
    rw [RelatedKind.all, Progress.add_main source₀, writeBatches_cons, Progress.source_add]
    cases Generator.relatedRecords .child index source with
    | error fault => rfl
    | ok drawn =>
      rcases drawn with ⟨children, source⟩
      rw [ok_bind, ok_bind, Draw.bind_eq]
      dsimp only
      rw [writeBatches_cons, Progress.source_add]
      cases Generator.relatedRecords .inline index source with
      | error fault => rfl
      | ok drawn =>
        rcases drawn with ⟨inlines, source⟩
        show Except.ok (Progress.add (Progress.add (Progress.add _ _ _ _) _ _ _) _ _ _) =
          Except.ok (Progress.add _ _ _ _)
        have hbatches : (fun kind => [] ++ (only .child children kind ++
            only .inline inlines kind)) = fun
              | .child => children
              | .inline => inlines := by
          funext kind
          cases kind with
          | child => exact List.append_nil _
          | inline => rfl
        rw [Progress.add_add, Progress.add_add]
        exact congrArg (fun related => Except.ok (Progress.add _ _ _ related)) hbatches

/-- Writing documents is drawing them, and then adding their rows. -/
theorem writeDocuments_eq (reference : DateTime) (index n : Nat) (p : Progress σ) :
    writeDocuments reference index n p = (drawDocuments reference index n p.source).map
      fun (docs, source) => p.addDocuments source docs := by
  induction n generalizing index p with
  | zero =>
    show Except.ok p = .ok (p.add p.source [] fun _ => [])
    rw [Progress.add_nothing]
  | succ n ih =>
    rw [writeDocuments.eq_def]
    dsimp only
    rw [writeDocument_eq, drawDocuments, Draw.bind_eq]
    cases drawDocument reference index p.source with
    | error fault => rfl
    | ok drawn =>
      rcases drawn with ⟨d, source⟩
      show writeDocuments reference (index + 1) n (p.add source [d.main] d.related) = _
      rw [ih, Progress.source_add, ok_bind, Draw.bind_eq]
      cases drawDocuments reference (index + 1) n source with
      | error fault => rfl
      | ok drawn =>
        rcases drawn with ⟨docs, source⟩
        show Except.ok (Progress.add (Progress.add _ _ _ _) _ _ _) = _
        rw [Progress.add_add]
        rfl

/-! ## Good documents in order -/

/-- The members of a list are good at the places from `first` on. -/
def GoodFrom {α : Type} (Good : Nat → α → Prop) (first : Nat) (members : List α) : Prop :=
  ∀ i (h : i < members.length), Good (first + i) members[i]

theorem goodFrom_nil {α : Type} {Good : Nat → α → Prop} {first : Nat} :
    GoodFrom Good first [] := by
  intro i h
  exact absurd h (Nat.not_lt_zero i)

/-- Members are good at their places if the first is, and the others one place further. -/
theorem goodFrom_cons {α : Type} {Good : Nat → α → Prop} {first : Nat} {a : α}
    {members : List α} :
    GoodFrom Good first (a :: members) ↔ Good first a ∧ GoodFrom Good (first + 1) members :=
  forall_getElem_cons

/-- The records are a batch of main document `parent` that passes. -/
structure GoodBatch (kind : RelatedKind) (parent : Nat) (records : List RelatedRecord) :
    Prop where
  size : kind.bounds.least ≤ records.length ∧ records.length ≤ kind.bounds.most
  records : GoodFrom (GoodRelated kind parent) 0 records

/-- A main document that passes as number `index`, with two batches that pass. -/
structure GoodDocument (index : Nat) (d : Document) : Prop where
  main : GoodMain index d.main
  batch : ∀ kind, GoodBatch kind index (d.related kind)

/-- A main document with the id of number `index`, with two batches that pass. -/
structure NumberedDocument (index : Nat) (d : Document) : Prop where
  id_eq : d.main.id = DocId.main index
  batch : ∀ kind, GoodBatch kind index (d.related kind)

/-- A good document has the ids of its number. -/
theorem GoodDocument.numbered {index : Nat} {d : Document} (h : GoodDocument index d) :
    NumberedDocument index d :=
  ⟨h.main.id_eq, h.batch⟩

theorem GoodFrom.mono {α : Type} {Good Good' : Nat → α → Prop} {first : Nat} {members : List α}
    (h : GoodFrom Good first members) (himp : ∀ i a, Good i a → Good' i a) :
    GoodFrom Good' first members := by
  intro i hi
  exact himp _ _ (h i hi)

/-- The documents that are taken from a batch are good at their places. -/
theorem yields_take (b : Generator.Batch) (n : Nat) :
    Yields (b.take n : Draw σ (List RelatedRecord × Generator.Batch)) fun taken =>
      taken.1.length = min n (b.length - b.taken) ∧
        GoodFrom (GoodRelated b.kind b.parent) b.taken taken.1 := by
  induction n generalizing b with
  | zero => exact yields_pure ⟨(Nat.zero_min _).symm, goodFrom_nil⟩
  | succ n ih =>
    intro s taken t h
    rw [Generator.Batch.take] at h
    rcases Draw.bind_ok_iff.1 h with ⟨next, u, hnext, h⟩
    rcases next?_ok hnext with ⟨rfl, hend⟩ | ⟨r, rfl, hmore, hgood⟩
    · rcases Draw.pure_ok_iff.1 h with ⟨rfl, -⟩
      refine ⟨?_, goodFrom_nil⟩
      rw [Nat.sub_eq_zero_of_le hend, Nat.min_zero, List.length_nil]
    · rcases Draw.bind_ok_iff.1 h with ⟨⟨records, rest⟩, v, htake, hpure⟩
      rcases Draw.pure_ok_iff.1 hpure with ⟨rfl, -⟩
      rcases ih _ _ _ _ htake with ⟨hlength, hrecords⟩
      refine ⟨?_, goodFrom_cons.2 ⟨hgood, hrecords⟩⟩
      rw [List.length_cons, hlength]
      show min n (b.length - (b.taken + 1)) + 1 = min (n + 1) (b.length - b.taken)
      omega

/-- A batch that is drawn as a whole is a good batch. -/
theorem yields_relatedRecords (kind : RelatedKind) (index : Nat) :
    Yields (Generator.relatedRecords kind index : Draw σ (List RelatedRecord))
      (GoodBatch kind index) := by
  intro s records t h
  rw [Generator.relatedRecords] at h
  rcases Draw.bind_ok_iff.1 h with ⟨b, u, hstart, h⟩
  rcases Draw.bind_ok_iff.1 h with ⟨⟨taken, rest⟩, v, htake, hpure⟩
  rcases Draw.pure_ok_iff.1 hpure with ⟨rfl, -⟩
  rcases start_ok hstart with ⟨length, rfl, hsize⟩
  rcases yields_take _ _ _ _ _ htake with ⟨hlength, hrecords⟩
  have hwhole : records.length = length := by
    rw [hlength]
    exact Nat.min_self length
  exact ⟨by rw [hwhole]; exact hsize, hrecords⟩

/-- What holds of the main document that is drawn holds beside two good batches. -/
theorem yields_main_batches {reference : DateTime} {index : Nat} {Fine : MainRecord → Prop}
    (hmain : Yields (Generator.mainRecord reference index : Draw σ MainRecord) Fine) :
    Yields (drawDocument reference index : Draw σ Document) fun d =>
      Fine d.main ∧ ∀ kind, GoodBatch kind index (d.related kind) := by
  refine hmain.bind fun main hfine => (yields_relatedRecords .child index).bind
    fun children hchildren => (yields_relatedRecords .inline index).bind
    fun inlines hinlines => yields_pure ⟨hfine, ?_⟩
  intro kind
  cases kind with
  | child => exact hchildren
  | inline => exact hinlines

/-- A document that is drawn is good as the number that it was drawn for. -/
theorem yields_drawDocument (hquote : ∀ w ∈ Lexicon.loremWords σ, '\'' ∉ w.toList)
    (reference : DateTime) (index : Nat) :
    Yields (drawDocument reference index : Draw σ Document) (GoodDocument index) :=
  (yields_main_batches (yields_mainRecord hquote reference index)).mono fun _ h => ⟨h.1, h.2⟩

/-- Whatever words there are, a document has the ids that it is drawn for. -/
theorem yields_numberedDocument (reference : DateTime) (index : Nat) :
    Yields (drawDocument reference index : Draw σ Document) (NumberedDocument index) :=
  (yields_main_batches (yields_mainRecord_id reference index)).mono fun _ h => ⟨h.1, h.2⟩

/-- What holds of each document that is drawn holds of all that are drawn, each in its place. -/
theorem yields_eachDocument {reference : DateTime} {Fine : Nat → Document → Prop}
    (hdoc : ∀ index, Yields (drawDocument reference index : Draw σ Document) (Fine index))
    (index n : Nat) :
    Yields (drawDocuments reference index n : Draw σ (List Document)) fun docs =>
      docs.length = n ∧ GoodFrom Fine index docs := by
  -- The first document is drawn as `index`, the others from `index + 1` on.
  induction n generalizing index with
  | zero => exact yields_pure ⟨rfl, goodFrom_nil⟩
  | succ n ih =>
    refine (hdoc index).bind fun d hd =>
      (ih (index + 1)).bind fun docs hdocs => yields_pure ?_
    exact ⟨by rw [List.length_cons, hdocs.1], goodFrom_cons.2 ⟨hd, hdocs.2⟩⟩

/-- The documents of a run are as many as asked for, each good as its number. -/
theorem yields_drawDocuments (hquote : ∀ w ∈ Lexicon.loremWords σ, '\'' ∉ w.toList)
    (reference : DateTime) (index n : Nat) :
    Yields (drawDocuments reference index n : Draw σ (List Document)) fun docs =>
      docs.length = n ∧ GoodFrom GoodDocument index docs :=
  yields_eachDocument (yields_drawDocument hquote reference) index n

end LinkedDocs.Generation
