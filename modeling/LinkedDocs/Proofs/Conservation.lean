import LinkedDocs.Proofs.Lockstep

/-!
# No row is lost

Whatever the data and the order of the calls, the rows that a reader hands out,
and the one it may hold, are the first rows of each file, each of them once.

* `numberedOnto_segment`: the rows of a file have its fields and their own numbers.
* `HandsOut`: what a call, and a run of calls, takes from the front of the files.
* `answers_handsOut`: from one call to any sequence of calls.
-/

namespace LinkedDocs.Dataset

/-! ## The numbers of rows -/

section

variable {α : Type} {make : Nat → List String → Except ReadError α}

/-- The rows that are done stand in front of those to come. -/
theorem numberedOnto_eq (done : Feed α) (next : Nat)
    (file : List (Except Csv.Fault (List String))) :
    numberedOnto make done next file = done.reverse ++ numberedOnto make [] next file := by
  induction file generalizing done next with
  | nil => simp [numberedOnto]
  | cons row file ih =>
    cases row with
    | error fault =>
      rw [numberedOnto, numberedOnto, ih, ih [_]]
      simp
    | ok fields =>
      rw [numberedOnto, numberedOnto]
      split
      · rw [ih, ih [_]]
        simp
      · rw [ih, ih [_]]
        simp

variable {next : Nat} {file : List (Except Csv.Fault (List String))} {fields : List String}

/-- A record that cannot be read takes no number. -/
theorem numberedOnto_fault (fault : Csv.Fault) :
    numberedOnto make [] next (.error fault :: file) =
      .error (.csv fault) :: numberedOnto make [] next file := by
  rw [numberedOnto, numberedOnto_eq]
  rfl

/-- A good row takes the next number. -/
theorem numberedOnto_good {row : α} (h : make next fields = .ok row) :
    numberedOnto make [] next (.ok fields :: file) =
      .ok row :: numberedOnto make [] (next + 1) file := by
  simp only [numberedOnto, h]
  rw [numberedOnto_eq]
  rfl

/-- Fields that make no row take no number. -/
theorem numberedOnto_bad {e : ReadError} (h : make next fields = .error e) :
    numberedOnto make [] next (.ok fields :: file) =
      .error e :: numberedOnto make [] next file := by
  simp only [numberedOnto, h]
  rw [numberedOnto_eq]
  rfl

/-- A file has a row, good or bad, for each record. -/
theorem length_numberedOnto (next : Nat) (file : List (Except Csv.Fault (List String))) :
    (numberedOnto make [] next file).length = file.length := by
  induction file generalizing next with
  | nil => rfl
  | cons row file ih =>
    cases row with
    | error fault => rw [numberedOnto_fault, List.length_cons, ih, List.length_cons]
    | ok fields =>
      cases hmake : make next fields with
      | ok row => rw [numberedOnto_good hmake, List.length_cons, ih, List.length_cons]
      | error e => rw [numberedOnto_bad hmake, List.length_cons, ih, List.length_cons]

/-- Good rows at the front of a feed are made of the records at their numbers. -/
theorem numberedOnto_segment {segment : List α} {rest : Feed α}
    (h : numberedOnto make [] next file = segment.map .ok ++ rest) (i : Nat)
    (hi : i < segment.length) :
    ∃ fields, file[i]? = some (.ok fields) ∧ make (next + i) fields = .ok segment[i] := by
  induction segment generalizing next file i with
  | nil => exact absurd hi (Nat.not_lt_zero _)
  | cons row segment ih =>
    -- A bad row would stand in front of the feed, where a good one is.
    rcases file with - | ⟨fault | fields, file⟩
    · cases h
    · rw [numberedOnto_fault] at h
      cases h
    · cases hmake : make next fields with
      | error e =>
        rw [numberedOnto_bad hmake] at h
        cases h
      | ok row' =>
        rw [numberedOnto_good hmake, List.map_cons, List.cons_append, List.cons.injEq,
          Except.ok.injEq] at h
        obtain ⟨rfl, hrest⟩ := h
        cases i with
        | zero => exact ⟨fields, rfl, hmake⟩
        | succ i =>
          have hsegment := ih hrest i (Nat.lt_of_succ_lt_succ hi)
          rw [Nat.add_right_comm] at hsegment
          exact hsegment

end

/-- The rows are the first data rows of a file: numbered from 0, with the fields of the file. -/
def MainRow.Opens (rows : List MainRow) (file : List (Except Csv.Fault (List String))) : Prop :=
  ∀ i (h : i < rows.length), rows[i].rowIndex = i ∧ file[i]? = some (.ok rows[i].fields)

/-- The rows are the first data rows of a file of a kind: numbered from 0, with its fields. -/
def RelatedRow.Opens (kind : RelatedKind) (rows : List RelatedRow)
    (file : List (Except Csv.Fault (List String))) : Prop :=
  ∀ i (h : i < rows.length),
    rows[i].kind = kind ∧ rows[i].rowIndex = i ∧ file[i]? = some (.ok rows[i].fields)

/-- A main row has the number that it was made with, and keeps all fields. -/
theorem MainRow.eq_of_ofFields {path : String} {n : Nat} {fields : List String} {row : MainRow}
    (h : MainRow.ofFields path n fields = .ok row) : row.rowIndex = n ∧ row.fields = fields := by
  rw [MainRow.ofFields.eq_def] at h
  split at h
  · obtain rfl := Except.ok.inj h
    exact ⟨rfl, rfl⟩
  · simp at h

/-- A related row has the kind and the number that it was made with, and keeps all fields. -/
theorem RelatedRow.eq_of_ofFields {kind : RelatedKind} {path : String} {n : Nat}
    {fields : List String} {row : RelatedRow}
    (h : RelatedRow.ofFields kind path n fields = .ok row) :
    row.kind = kind ∧ row.rowIndex = n ∧ row.fields = fields := by
  rw [RelatedRow.ofFields.eq_def] at h
  split at h
  · obtain rfl := Except.ok.inj h
    exact ⟨rfl, rfl, rfl⟩
  · simp at h

/-- Rows from the front of a file that is read open that file. -/
theorem MainRow.opens_of_numbered {path : String} {file : List (Except Csv.Fault (List String))}
    {rows : List MainRow} {rest : Feed MainRow}
    (h : numbered (MainRow.ofFields path) file = rows.map .ok ++ rest) :
    MainRow.Opens rows file := by
  intro i hi
  rcases numberedOnto_segment h i hi with ⟨fields, hfile, hmake⟩
  rcases MainRow.eq_of_ofFields hmake with ⟨hindex, hfields⟩
  exact ⟨by rw [hindex, Nat.zero_add], by rw [hfile, hfields]⟩

/-- The good related rows at the front of a file are those of its first records. -/
theorem RelatedRow.opens_of_numbered {kind : RelatedKind} {path : String}
    {file : List (Except Csv.Fault (List String))} {rows : List RelatedRow}
    {rest : Feed RelatedRow}
    (h : numbered (RelatedRow.ofFields kind path) file = rows.map .ok ++ rest) :
    RelatedRow.Opens kind rows file := by
  intro i hi
  rcases numberedOnto_segment h i hi with ⟨fields, hfile, hmake⟩
  rcases RelatedRow.eq_of_ofFields hmake with ⟨hkind, hindex, hfields⟩
  exact ⟨hkind, by rw [hindex, Nat.zero_add], by rw [hfile, hfields]⟩

/-- Every good row of a related file is of the file's kind. -/
theorem kind_of_mem_numbered {kind : RelatedKind} {path : String}
    {file : List (Except Csv.Fault (List String))} {row : RelatedRow}
    (h : .ok row ∈ numbered (RelatedRow.ofFields kind path) file) : row.kind = kind := by
  rw [numbered] at h
  -- The number of a row says nothing about its kind, so it is left open.
  generalize 0 = next at h
  induction file generalizing next with
  | nil => cases h
  | cons record file ih =>
    cases record with
    | error fault =>
      rw [numberedOnto_fault] at h
      rcases List.mem_cons.1 h with heq | hrest
      · cases heq
      · exact ih _ hrest
    | ok fields =>
      cases hmake : RelatedRow.ofFields kind path next fields with
      | ok row' =>
        rw [numberedOnto_good hmake] at h
        rcases List.mem_cons.1 h with heq | hrest
        · obtain rfl := Except.ok.inj heq
          exact (RelatedRow.eq_of_ofFields hmake).1
        · exact ih _ hrest
      | error e =>
        rw [numberedOnto_bad hmake] at h
        rcases List.mem_cons.1 h with heq | hrest
        · cases heq
        · exact ih _ hrest

/-! ## What is handed out -/

/-- The rows of a kind in a group, its orphans included. -/
def Group.handed (kind : RelatedKind) (g : Group) : List RelatedRow :=
  g.related kind ++ g.orphans.filter (·.kind = kind)

namespace Reader

/-- A call of a reader. -/
inductive Call where
  | nextGroup
  | next
  | remaining
  deriving DecidableEq, Repr

/-- What a call hands out. -/
inductive Answer where
  | group (g : Option Group)
  | left (rows : List RelatedRow)
  deriving DecidableEq, Repr

/-- The main rows of an answer. -/
def Answer.mains : Answer → List MainRow
  | group g => g.toList.map Group.main
  | left _ => []

/-- The related rows of a kind in an answer. -/
def Answer.handed (kind : RelatedKind) : Answer → List RelatedRow
  | group g => g.toList.flatMap (Group.handed kind)
  | left rows => rows.filter (·.kind = kind)

/-- One call. -/
def answer (r : Reader) : Call → Except ReadError Answer × Reader
  | .nextGroup =>
    match r.nextGroup with
    | (.ok g, r) => (.ok (.group g), r)
    | (.error e, r) => (.error e, r)
  | .next =>
    match r.next with
    | (none, r) => (.ok (.group none), r)
    | (some (.ok g), r) => (.ok (.group (some g)), r)
    | (some (.error e), r) => (.error e, r)
  | .remaining =>
    match r.remaining with
    | (.ok rows, r) => (.ok (.left rows), r)
    | (.error e, r) => (.error e, r)

/-- Calls one after the other, up to the first that fails. -/
def answers (r : Reader) : List Call → Except ReadError (List Answer × Reader)
  | [] => .ok ([], r)
  | call :: calls =>
    match r.answer call with
    | (.error e, _) => .error e
    | (.ok a, r) =>
      match r.answers calls with
      | .error e => .error e
      | .ok (as, r) => .ok (a :: as, r)

/-- The iterator answers as the plain call does. -/
theorem answer_next (r : Reader) : r.answer .next = r.answer .nextGroup := by
  simp only [answer, next]
  rcases r.nextGroup with ⟨e | - | g, r'⟩ <;> rfl

/-- Every row still to come from a related file is of the file's kind. -/
def KindsAgree (r : Reader) : Prop :=
  ∀ kind row, .ok row ∈ (r.related kind).rest → row.kind = kind

/-- Rows of the main file, and of each related file in any order, taken from the front. -/
structure HandsOut (mains : List MainRow) (related : RelatedKind → List RelatedRow)
    (r r' : Reader) : Prop where
  main : r.main = mains.map .ok ++ r'.main
  related : ∀ kind, ∃ taken, (r.related kind).rest = taken.map .ok ++ (r'.related kind).rest ∧
    (related kind).Perm taken

theorem HandsOut.refl (r : Reader) : HandsOut [] (fun _ => []) r r where
  main := rfl
  related _ := ⟨[], rfl, .refl _⟩

/-- Two steps hand out the rows of the first and then those of the second. -/
theorem HandsOut.trans {mains mains' : List MainRow}
    {related related' : RelatedKind → List RelatedRow} {r r' r'' : Reader}
    (h : HandsOut mains related r r') (h' : HandsOut mains' related' r' r'') :
    HandsOut (mains ++ mains') (fun kind => related kind ++ related' kind) r r'' where
  main := by rw [h.main, h'.main, List.map_append, List.append_assoc]
  related kind := by
    rcases h.related kind with ⟨taken, hrest, hperm⟩
    rcases h'.related kind with ⟨taken', hrest', hperm'⟩
    exact ⟨taken ++ taken', by rw [hrest, hrest', List.map_append, List.append_assoc],
      hperm.append hperm'⟩

/-- What is left of a file after a step is still of its one kind. -/
theorem HandsOut.kindsAgree {mains : List MainRow} {related : RelatedKind → List RelatedRow}
    {r r' : Reader} (h : HandsOut mains related r r') (hr : r.KindsAgree) : r'.KindsAgree := by
  intro kind row hrow
  rcases h.related kind with ⟨taken, hrest, -⟩
  exact hr kind row (by rw [hrest]; exact List.mem_append_right _ hrow)

/-- Rows of which none is ahead are own or behind. -/
theorem standingRows_perm {main : MainRow} {taken : List RelatedRow}
    (h : ∀ row ∈ taken, row.standing main ≠ .ahead) :
    (standingRows main .own taken ++ standingRows main .behind taken).Perm taken := by
  have hbehind : standingRows main .behind taken =
      taken.filter fun row => !decide (row.standing main = .own) := by
    apply List.filter_congr
    intro row hrow
    have := h row hrow
    cases hs : row.standing main <;> simp_all
  rw [hbehind]
  exact List.filter_append_perm _ _

/-- Among rows of one kind, those of a kind are all or none. -/
theorem filter_kind_of_forall {kind kind' : RelatedKind} {rows : List RelatedRow}
    (h : ∀ row ∈ rows, row.kind = kind) :
    rows.filter (·.kind = kind') = if kind = kind' then rows else [] := by
  split
  · rename_i hkind
    exact List.filter_eq_self.2 fun row hrow => by simp [h row hrow, hkind]
  · rename_i hkind
    exact List.filter_eq_nil_iff.2 fun row hrow => by simp [h row hrow, hkind]

/-- A group hands out its main row, and all the related rows that are passed over for it. -/
theorem nextGroup_handsOut {r r' : Reader} {group : Group} (hr : r.KindsAgree)
    (h : r.nextGroup = (.ok (some group), r')) :
    HandsOut [group.main] (fun kind => group.handed kind) r r' := by
  rcases nextGroup_ok h with ⟨hmain, children, inlines, hc, hi, hown, hown', horphans⟩
  -- The orphans of a group are told apart by their kind, which is that of their file.
  have hkindc : ∀ row ∈ standingRows group.main .behind children, row.kind = .child := by
    intro row hrow
    apply hr .child
    rw [show r.related .child = r.child from rfl, hc.rest_eq]
    exact List.mem_append_left _ (List.mem_map_of_mem (List.mem_of_mem_filter hrow))
  have hkindi : ∀ row ∈ standingRows group.main .behind inlines, row.kind = .inline := by
    intro row hrow
    apply hr .inline
    rw [show r.related .inline = r.inline from rfl, hi.rest_eq]
    exact List.mem_append_left _ (List.mem_map_of_mem (List.mem_of_mem_filter hrow))
  refine ⟨hmain, fun kind => ?_⟩
  cases kind with
  | child =>
    refine ⟨children, hc.rest_eq, ?_⟩
    rw [Group.handed, Group.related, hown, horphans, List.filter_append,
      filter_kind_of_forall hkindc, filter_kind_of_forall hkindi]
    simpa using standingRows_perm hc.not_ahead
  | inline =>
    refine ⟨inlines, hi.rest_eq, ?_⟩
    rw [Group.handed, Group.related, hown', horphans, List.filter_append,
      filter_kind_of_forall hkindc, filter_kind_of_forall hkindi]
    simpa using standingRows_perm hi.not_ahead

/-- What is left is handed out whole. -/
theorem remaining_handsOut {r r' : Reader} {rows : List RelatedRow} (hr : r.KindsAgree)
    (h : r.remaining = (.ok rows, r')) :
    HandsOut [] (fun kind => rows.filter (·.kind = kind)) r r' ∧
      ∀ kind, (r'.related kind).rest = [] := by
  rcases remaining_ok h with ⟨children, inlines, rfl, hmain, hc, hi, hc', hi'⟩
  have hkindc : ∀ row ∈ children, row.kind = .child := by
    intro row hrow
    apply hr .child
    rw [show r.related .child = r.child from rfl, hc]
    exact List.mem_map_of_mem hrow
  have hkindi : ∀ row ∈ inlines, row.kind = .inline := by
    intro row hrow
    apply hr .inline
    rw [show r.related .inline = r.inline from rfl, hi]
    exact List.mem_map_of_mem hrow
  refine ⟨⟨by simp [hmain], fun kind => ?_⟩, fun kind => by cases kind <;> assumption⟩
  simp only [List.filter_append, filter_kind_of_forall hkindc, filter_kind_of_forall hkindi]
  cases kind with
  | child => exact ⟨children, by simp [related, hc, hc'], by simp⟩
  | inline => exact ⟨inlines, by simp [related, hi, hi'], by simp⟩

/-- What one call hands out. -/
theorem answer_handsOut {r r' : Reader} {call : Call} {a : Answer} (hr : r.KindsAgree)
    (h : r.answer call = (.ok a, r')) :
    HandsOut a.mains (fun kind => a.handed kind) r r' ∧ (a = .group none → r'.main = []) ∧
      (call = .remaining → ∀ kind, (r'.related kind).rest = []) := by
  -- `nextGroup` and `next` take the same rows; only the form of the answer differs.
  have hgroup (h : r.answer .nextGroup = (.ok a, r')) :
      HandsOut a.mains (fun kind => a.handed kind) r r' ∧ (a = .group none → r'.main = []) := by
    rw [answer] at h
    rcases hg : r.nextGroup with ⟨e | - | group, r''⟩ <;> rw [hg] at h <;>
      simp only [Prod.mk.injEq, Except.ok.injEq, reduceCtorEq, false_and] at h
    · rcases h with ⟨rfl, rfl⟩
      rcases nextGroup_none hg with ⟨hmain, rfl⟩
      exact ⟨.refl _, fun _ => hmain⟩
    · rcases h with ⟨rfl, rfl⟩
      exact ⟨by simpa [Answer.mains, Answer.handed] using nextGroup_handsOut hr hg, by simp⟩
  cases call with
  | nextGroup => exact ⟨(hgroup h).1, (hgroup h).2, by simp⟩
  | next =>
    rw [answer_next] at h
    exact ⟨(hgroup h).1, (hgroup h).2, by simp⟩
  | remaining =>
    rw [answer] at h
    rcases hl : r.remaining with ⟨e | rows, r''⟩ <;> rw [hl] at h <;>
      simp only [Prod.mk.injEq, Except.ok.injEq, reduceCtorEq, false_and] at h
    rcases h with ⟨rfl, rfl⟩
    rcases remaining_handsOut hr hl with ⟨hhands, hrest⟩
    exact ⟨hhands, by simp, fun _ => hrest⟩

/-- What any sequence of calls hands out, none of which fails. -/
theorem answers_handsOut {r r' : Reader} {calls : List Call} {as : List Answer}
    (hr : r.KindsAgree) (h : r.answers calls = .ok (as, r')) :
    HandsOut (as.flatMap Answer.mains) (fun kind => as.flatMap (Answer.handed kind)) r r' ∧
      (.group none ∈ as → r'.main = []) ∧
      (.remaining ∈ calls → ∀ kind, (r'.related kind).rest = []) := by
  induction calls generalizing r as with
  | nil =>
    simp only [answers, Except.ok.injEq, Prod.mk.injEq] at h
    rcases h with ⟨rfl, rfl⟩
    exact ⟨.refl _, by simp, by simp⟩
  | cons call calls ih =>
    rw [answers] at h
    rcases ha : r.answer call with ⟨e | a, r₁⟩ <;> rw [ha] at h
    · simp at h
    rcases has : r₁.answers calls with e | ⟨as', r₂⟩ <;> simp only [has] at h
    · simp at h
    simp only [Except.ok.injEq, Prod.mk.injEq] at h
    rcases h with ⟨rfl, rfl⟩
    rcases answer_handsOut hr ha with ⟨hhands, hnone, hleft⟩
    rcases ih (hhands.kindsAgree hr) has with ⟨hhands', hnone', hleft'⟩
    -- What is empty after the first call stays so: later calls take from its end nothing.
    refine ⟨by simpa using hhands.trans hhands', fun hmem => ?_, fun hmem kind => ?_⟩
    · rcases List.mem_cons.1 hmem with ha | ha
      · have := hhands'.main
        rw [hnone ha.symm] at this
        exact (List.append_eq_nil_iff.1 this.symm).2
      · exact hnone' ha
    · rcases List.mem_cons.1 hmem with hc | hc
      · rcases hhands'.related kind with ⟨taken, hrest, -⟩
        rw [hleft hc.symm kind] at hrest
        exact (List.append_eq_nil_iff.1 hrest.symm).2
      · exact hleft' hc kind

end Reader

end LinkedDocs.Dataset
