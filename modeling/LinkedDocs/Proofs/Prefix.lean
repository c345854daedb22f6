import LinkedDocs.Proofs.Runs

/-!
# More documents, or header rows, change nothing before them

What is drawn for a document depends on the source and on the documents before
it, not on how many come after it, nor on the header rows. So runs of one source
agree on the documents that they have in common.

* `drawDocuments_prefix`: fewer documents are the first ones of more.
* `runs_agree_on_documents`: two runs and their files.
-/

namespace LinkedDocs.Generation

open Dataset Calendar LinkedDocs.Random

variable {σ : Type} [WordStream σ] [Lexicon σ]

/-- Of one source, fewer documents are the first ones of more documents. -/
theorem drawDocuments_prefix {reference : DateTime} {index n m : Nat} {source s t : Source σ}
    {docs docs' : List Document} (hle : n ≤ m)
    (hn : drawDocuments reference index n source = .ok (docs, s))
    (hm : drawDocuments reference index m source = .ok (docs', t)) :
    ∃ more, docs' = docs ++ more := by
  obtain ⟨k, rfl⟩ := Nat.exists_eq_add_of_le hle
  rw [drawDocuments_add] at hm
  -- The longer run begins with the draws of the shorter one.
  rcases Draw.bind_ok_iff.1 hm with ⟨first, u, hfirst, hm⟩
  rcases Draw.bind_ok_iff.1 hm with ⟨more, v, -, hpure⟩
  rw [hn] at hfirst
  cases hfirst
  exact ⟨more, (Draw.pure_ok_iff.1 hpure).1⟩

/--
Two runs of one source, with the same end of the dates: the files of the one
with fewer documents are, byte for byte, the front of the files of the other if
both or neither have header rows; and with the same number of documents, header
rows stand before the files without them and change nothing else.
-/
theorem runs_agree_on_documents {options options' : Options} {localTime localTime' : DateTime}
    {n m : Nat} {source : Source σ} {start start' stop stop' : Session} {report report' : Report}
    (htime : options.referenceTime.getD localTime = options'.referenceTime.getD localTime')
    (hrun : runFrom options localTime n source start = (.ok report, stop))
    (hrun' : runFrom options' localTime' m source start' = (.ok report', stop')) :
    ∃ c c' : Contents, c.StoredIn options.outDir stop.tree ∧
      c'.StoredIn options'.outDir stop'.tree ∧
      (options.headers = options'.headers → n ≤ m → ∃ rest, c' = c ++ rest) ∧
      (options.headers = false → options'.headers = true → n = m →
        c' = Contents.headerRows ++ c) := by
  rcases runFrom_stores hrun with ⟨-, docs, left, hdraw, -, hstored⟩
  rcases runFrom_stores hrun' with ⟨-, docs', left', hdraw', -, hstored'⟩
  rw [← htime] at hdraw'
  refine ⟨_, _, hstored, hstored', ?_, ?_⟩
  · intro hheaders hle
    rcases drawDocuments_prefix hle hdraw hdraw' with ⟨more, rfl⟩
    rw [hheaders, filesOf_append]
    exact ⟨_, rfl⟩
  · intro hwithout hwith heq
    subst heq
    rw [hdraw] at hdraw'
    cases hdraw'
    rw [hwithout, hwith, filesOf_headers]

/-- One document, two documents, and one document behind header rows. -/
theorem second_document_and_headers_added :
    ∃ report report₂ reportₕ stop stop₂ stopₕ,
      runFrom {} startOfDays 1 sixWords { tree := {} } = (.ok report, stop) ∧
      runFrom {} startOfDays 2 sixWords { tree := {} } = (.ok report₂, stop₂) ∧
      runFrom { headers := true } startOfDays 1 sixWords { tree := {} } = (.ok reportₕ, stopₕ) ∧
      (∃ c c' : Contents, c.StoredIn "data" stop.tree ∧ c'.StoredIn "data" stop₂.tree ∧
        ∃ rest, c' = c ++ rest) ∧
      ∃ c c' : Contents, c.StoredIn "data" stop.tree ∧ c'.StoredIn "data" stopₕ.tree ∧
        c' = Contents.headerRows ++ c := by
  -- Only the draws are evaluated here, and those of one document are the first of them.
  have hok : (drawDocuments startOfDays 0 2 sixWords : Except DrawFault _).toOption.any
      (fun _ => true) = true := by
    decide +kernel
  rcases exists_ok_of_any hok with ⟨⟨docs₂, left₂⟩, hdraw₂, -⟩
  have hfirst := hdraw₂
  rw [drawDocuments_add startOfDays 0 1 1] at hfirst
  rcases Draw.bind_ok_iff.1 hfirst with ⟨docs, left, hdraw, -⟩
  rcases @exists_runFrom _ _ _ {} startOfDays 1 sixWords left { tree := {} } docs
    (ready_newTree false) hdraw with ⟨stop, hrun⟩
  rcases @exists_runFrom _ _ _ {} startOfDays 2 sixWords left₂ { tree := {} } docs₂
    (ready_newTree false) hdraw₂ with ⟨stop₂, hrun₂⟩
  rcases @exists_runFrom _ _ _ { headers := true } startOfDays 1 sixWords left { tree := {} } docs
    (ready_newTree true) hdraw with ⟨stopₕ, hrunₕ⟩
  obtain ⟨c, c₂, hc, hc₂, hprefix, -⟩ := runs_agree_on_documents rfl hrun hrun₂
  obtain ⟨c', cₕ, hc', hcₕ, -, hheaders⟩ := @runs_agree_on_documents _ _ _ {} { headers := true }
    startOfDays startOfDays 1 1 sixWords _ _ _ _ _ _ rfl hrun hrunₕ
  exact ⟨_, _, _, stop, stop₂, stopₕ, hrun, hrun₂, hrunₕ,
    ⟨c, c₂, hc, hc₂, hprefix rfl (by decide)⟩, c', cₕ, hc', hcₕ, hheaders rfl rfl rfl⟩

end LinkedDocs.Generation
