import LinkedDocs.Proofs.Runs
import LinkedDocs.Proofs.TakenWords

/-!
# Batches taken one call at a time

A batch is opened with its length and asked for its documents call by call. The
calls may stop anywhere, and may go on behind the end. Whenever they stop, what
was drawn is the length and the documents handed out, and no more.

* `recordsFrom`: documents of a batch by their places, drawn one after the other.
* `Batch.calls`: the answers to a number of calls, ends included.
* `Batch.calls_eq`: the calls are the documents still to come, as many as are asked
  for, and then ends that draw nothing.
* `relatedRecords_eq`: the batch as a whole, by places.
* `batch_handed_out_call_by_call`: the calls against the batch as a whole.
-/

namespace LinkedDocs.Generator

open LinkedDocs.Random LinkedDocs.Random.Draw Generation Evaluation

variable {σ : Type} [WordStream σ]

namespace Batch

/-! ## Opening and advancing -/

/-- A batch that is opened has drawn its length, and nothing else. -/
theorem start_ok_iff {kind : RelatedKind} {parent : Nat} {s u : Source σ} {b : Batch} :
    start kind parent s = .ok (b, u) ↔
      b = { kind, parent, length := b.length } ∧
        within kind.bounds.least kind.bounds.most s = .ok (b.length, u) := by
  unfold start
  rw [Draw.bind_ok_iff]
  constructor
  · rintro ⟨length, t, hlength, hpure⟩
    rcases Draw.pure_ok_iff.1 hpure with ⟨rfl, rfl⟩
    exact ⟨rfl, hlength⟩
  · rintro ⟨hb, hlength⟩
    exact ⟨b.length, u, hlength, Draw.pure_ok_iff.2 ⟨hb, rfl⟩⟩

/-- A batch is opened wherever two words are left. -/
theorem exists_start (kind : RelatedKind) (parent : Nat) {s : Source σ} (h : 2 ≤ s.remaining) :
    ∃ b u, start kind parent s = .ok (b, u) := by
  have hle : kind.bounds.least ≤ kind.bounds.most := by cases kind <;> decide
  have hbounded : Bounded (within kind.bounds.least kind.bounds.most : Draw σ Nat) (1 + 1) :=
    bounded_uniform bounded_word hle
  obtain ⟨length, u, hlength, -⟩ := hbounded s h
  exact ⟨{ kind, parent, length }, u, start_ok_iff.2 ⟨rfl, hlength⟩⟩

/-- The batch with `n` more of its documents taken. -/
def advance (b : Batch) (n : Nat) : Batch := { b with taken := b.taken + n }

@[simp] theorem advance_kind (b : Batch) (n : Nat) : (b.advance n).kind = b.kind := rfl

@[simp] theorem advance_parent (b : Batch) (n : Nat) : (b.advance n).parent = b.parent := rfl

@[simp] theorem advance_taken (b : Batch) (n : Nat) : (b.advance n).taken = b.taken + n := rfl

theorem advance_zero (b : Batch) : b.advance 0 = b := rfl

/-- Further rows are taken one after the other. -/
theorem advance_succ (b : Batch) (n : Nat) : b.advance (n + 1) = (b.advance 1).advance n := by
  unfold advance
  rw [Nat.add_comm n 1, Nat.add_assoc]

/-- Each document that is taken is one fewer to come. -/
theorem remaining_advance (b : Batch) (n : Nat) :
    (b.advance n).remaining = b.remaining - n := by
  show b.length - (b.taken + n) = b.length - b.taken - n
  omega

/-- A batch that has not ended has one row more than it has after that row. -/
theorem remaining_of_lt {b : Batch} (h : b.taken < b.length) :
    b.remaining = (b.advance 1).remaining + 1 := by
  rw [remaining_advance, remaining]
  omega

end Batch

variable [Lexicon σ]

/-! ## Documents by their places -/

/-- The `n` documents at the places from `first` on, drawn one after the other. -/
def recordsFrom (kind : RelatedKind) (parent first n : Nat) : Draw σ (List RelatedRecord) :=
  match n with
  | 0 => return []
  | n + 1 => do
    let record ← relatedRecord kind parent first
    let records ← recordsFrom kind parent (first + 1) n
    return record :: records

/-- More documents are drawn from what the first ones left of the source. -/
theorem recordsFrom_add (kind : RelatedKind) (parent first n k : Nat) :
    (recordsFrom kind parent first (n + k) : Draw σ (List RelatedRecord)) = (do
      let records ← recordsFrom kind parent first n
      let more ← recordsFrom kind parent (first + n) k
      return records ++ more) := by
  induction n generalizing first with
  | zero =>
    rw [Nat.zero_add, Nat.add_zero, recordsFrom]
    simp only [pure_bind, List.nil_append, bind_pure]
  | succ n ih =>
    have hplace : first + (n + 1) = first + 1 + n := by omega
    rw [Nat.add_right_comm, recordsFrom, ih, recordsFrom, hplace]
    simp only [bind_assoc, pure_bind, List.cons_append]

/-- The documents drawn are as many as asked for, each good at its place. -/
theorem yields_recordsFrom (kind : RelatedKind) (parent first n : Nat) :
    Yields (recordsFrom kind parent first n : Draw σ (List RelatedRecord)) fun records =>
      records.length = n ∧ GoodFrom (GoodRelated kind parent) first records := by
  -- The first document is drawn for `first`, the others for the places behind it.
  induction n generalizing first with
  | zero => exact yields_pure ⟨rfl, goodFrom_nil⟩
  | succ n ih =>
    refine (yields_relatedRecord kind parent first).bind fun record hrecord =>
      (ih (first + 1)).bind fun records hrecords => yields_pure ?_
    exact ⟨by rw [List.length_cons, hrecords.1], goodFrom_cons.2 ⟨hrecord, hrecords.2⟩⟩

/-- What is drawn for some places is the front of what is drawn for more of them. -/
theorem recordsFrom_take {kind : RelatedKind} {parent first n k : Nat} {s u : Source σ}
    {records : List RelatedRecord} (hle : k ≤ n)
    (h : recordsFrom kind parent first n s = .ok (records, u)) :
    ∃ t, recordsFrom kind parent first k s = .ok (records.take k, t) := by
  have hsplit : n = k + (n - k) := by omega
  rw [hsplit, recordsFrom_add] at h
  rcases Draw.bind_ok_iff.1 h with ⟨front, t, hfront, h⟩
  rcases Draw.bind_ok_iff.1 h with ⟨more, v, _, hpure⟩
  rcases Draw.pure_ok_iff.1 hpure with ⟨rfl, -⟩
  have hlength := (yields_recordsFrom kind parent first k s front t hfront).1
  refine ⟨t, ?_⟩
  rw [List.take_left' hlength]
  exact hfront

namespace Batch

variable {b : Batch}

/-! ## Calls -/

/-- The answer to a call, and the batch after it; the end leaves the batch as it is. -/
def answer (b : Batch) : Draw σ (Option RelatedRecord × Batch) := do
  match ← b.next? with
  | none => return (none, b)
  | some (record, rest) => return (some record, rest)

/-- The answers to `t` calls, and the batch after them. -/
def calls (b : Batch) (t : Nat) : Draw σ (List (Option RelatedRecord) × Batch) :=
  match t with
  | 0 => return ([], b)
  | t + 1 => do
    let (answer, rest) ← b.answer
    let (answers, last) ← rest.calls t
    return (answer :: answers, last)

/-- Before the end a call draws the document at the place reached. -/
theorem answer_more (h : b.taken < b.length) :
    (b.answer : Draw σ _) = (do
      let record ← relatedRecord b.kind b.parent b.taken
      return (some record, b.advance 1)) := by
  rw [answer, next?, if_pos h]
  simp only [bind_assoc, pure_bind]
  rfl

/-- At the end a call draws nothing. -/
theorem answer_end (h : b.length ≤ b.taken) :
    (b.answer : Draw σ _) = pure (none, b) := by
  rw [answer, next?, if_neg (Nat.not_lt.2 h), pure_bind]

/-- Once at its end, a batch answers so to every call and draws nothing. -/
theorem calls_end (h : b.length ≤ b.taken) (t : Nat) :
    (b.calls t : Draw σ _) = pure (List.replicate t none, b) := by
  induction t with
  | zero => rfl
  | succ t ih =>
    rw [calls, answer_end h, pure_bind]
    dsimp only
    rw [ih, pure_bind]
    rfl

/--
The calls hand out the documents still to come, as many as are asked for, and
answer the end to the others.
-/
theorem calls_eq (h : b.taken ≤ b.length) (t : Nat) :
    (b.calls t : Draw σ _) = (do
      let records ← recordsFrom b.kind b.parent b.taken (min t b.remaining)
      return (records.map some ++ List.replicate (t - b.remaining) none,
        b.advance (min t b.remaining))) := by
  -- The invariant is that no more documents are taken than there are; a call keeps it.
  induction t generalizing b with
  | zero =>
    rw [Nat.zero_min, Nat.zero_sub, recordsFrom, pure_bind, advance_zero]
    rfl
  | succ t ih =>
    rcases Nat.lt_or_ge b.taken b.length with hmore | hend
    · have hremaining := remaining_of_lt hmore
      have hmin : min (t + 1) b.remaining = min t (b.advance 1).remaining + 1 := by
        rw [hremaining, Nat.succ_min_succ]
      have hrest : t + 1 - b.remaining = t - (b.advance 1).remaining := by omega
      rw [calls, answer_more hmore, hmin, hrest, recordsFrom, advance_succ b (min t _)]
      simp only [bind_assoc, pure_bind]
      refine bind_congr fun record => ?_
      rw [ih (b := b.advance 1) hmore]
      simp only [bind_assoc, pure_bind, List.map_cons, List.cons_append, advance_kind,
        advance_parent, advance_taken]
    · -- Nothing is to come, so all that is left to answer is the end.
      have hnone : b.remaining = 0 := Nat.sub_eq_zero_of_le hend
      rw [calls_end hend, hnone, Nat.min_zero, recordsFrom, pure_bind, advance_zero]
      rfl

/-- What is taken in one go are the documents still to come, as many as are asked for. -/
theorem take_eq (h : b.taken ≤ b.length) (n : Nat) :
    (b.take n : Draw σ _) = (do
      let records ← recordsFrom b.kind b.parent b.taken (min n b.remaining)
      return (records, b.advance (min n b.remaining))) := by
  induction n generalizing b with
  | zero =>
    rw [Nat.zero_min, recordsFrom, pure_bind, advance_zero]
    rfl
  | succ n ih =>
    rw [take, next?]
    rcases Nat.lt_or_ge b.taken b.length with hmore | hend
    · have hmin : min (n + 1) b.remaining = min n (b.advance 1).remaining + 1 := by
        rw [remaining_of_lt hmore, Nat.succ_min_succ]
      have hnext : { b with taken := b.taken + 1 } = b.advance 1 := rfl
      rw [if_pos hmore, hmin, recordsFrom, advance_succ b (min n _), hnext]
      simp only [bind_assoc, pure_bind]
      refine bind_congr fun record => ?_
      rw [ih (b := b.advance 1) hmore]
      simp only [bind_assoc, pure_bind, advance_kind, advance_parent, advance_taken]
    · have hnone : b.remaining = 0 := Nat.sub_eq_zero_of_le hend
      rw [if_neg (Nat.not_lt.2 hend), hnone, Nat.min_zero, recordsFrom, pure_bind, pure_bind,
        advance_zero]

/-- The calls on a batch just opened. -/
theorem calls_fresh (kind : RelatedKind) (parent length t : Nat) :
    (({ kind, parent, length } : Batch).calls t : Draw σ _) = (do
      let records ← recordsFrom kind parent 0 (min t length)
      return (records.map some ++ List.replicate (t - length) none,
        { kind, parent, length, taken := min t length })) := by
  rw [calls_eq (Nat.zero_le _)]
  simp only [remaining, advance, Nat.sub_zero, Nat.zero_add]

end Batch

/-! ## Parts and the whole -/

/-- A batch as a whole is its length and then its documents. -/
theorem relatedRecords_eq (kind : RelatedKind) (parent : Nat) :
    (relatedRecords kind parent : Draw σ (List RelatedRecord)) = (do
      let length ← within kind.bounds.least kind.bounds.most
      recordsFrom kind parent 0 length) := by
  unfold relatedRecords Batch.start
  simp only [bind_assoc, pure_bind]
  refine bind_congr fun length => ?_
  rw [Batch.take_eq (Nat.zero_le _)]
  simp only [Batch.remaining, Nat.sub_zero, Nat.min_self, bind_assoc, pure_bind, bind_pure]

/--
A batch is handed out call by call as it would be collected as a whole. Its length is
drawn when it is opened, within the bounds of its kind. After `t` calls

* the answers are the documents that the whole batch begins with, each at its place,
  and then ends;
* the number still to come is what is left of the length, and was never less;
* from an end on, every call answers the end and draws nothing;
* the source has given the length and the documents handed out, so that what is drawn
  next does not see the rest of the batch.
-/
theorem batch_handed_out_call_by_call (kind : RelatedKind) (parent : Nat) (s : Source σ) :
    (2 ≤ s.remaining → ∃ b u, Batch.start kind parent s = .ok (b, u)) ∧
    ∀ b u, Batch.start kind parent s = .ok (b, u) →
      within kind.bounds.least kind.bounds.most s = .ok (b.length, u) ∧
      kind.bounds.least ≤ b.length ∧ b.length ≤ kind.bounds.most ∧
      relatedRecords kind parent s = recordsFrom kind parent 0 b.length u ∧
      ∀ t,
        (∀ whole w, relatedRecords kind parent s = .ok (whole, w) →
          whole.length = b.length ∧ ∃ rest v, b.calls t u = .ok
            (((whole.take (min t b.length)).map some ++ List.replicate (t - b.length) none,
              rest), v)) ∧
        (∀ answers rest v, b.calls t u = .ok ((answers, rest), v) →
          ∃ records, answers = records.map some ++ List.replicate (t - b.length) none ∧
            records.length = min t b.length ∧
            (∀ j (hj : j < records.length), records[j].id = DocId.related kind parent j ∧
              records[j].parentId = DocId.main parent) ∧
            recordsFrom kind parent 0 (min t b.length) u = .ok (records, v) ∧
            rest.length = b.length ∧ rest.taken ≤ rest.length ∧
            rest.remaining = b.length - min t b.length ∧
            (none ∈ answers → ∀ k (z : Source σ),
              rest.calls k z = .ok ((List.replicate k none, rest), z))) ∧
        ∀ {α : Type} (next : Draw σ α),
          (do
            let opened ← Batch.start kind parent
            let _ ← opened.calls t
            next : Draw σ α) s =
          (do
            let length ← within kind.bounds.least kind.bounds.most
            let _ ← recordsFrom kind parent 0 (min t length)
            next : Draw σ α) s := by
  refine ⟨Batch.exists_start kind parent, ?_⟩
  intro b u hstart
  obtain ⟨length, rfl, hlow, hhigh⟩ := start_ok hstart
  have hlength : within kind.bounds.least kind.bounds.most s = .ok (length, u) :=
    (Batch.start_ok_iff.1 hstart).2
  have hwhole : relatedRecords kind parent s = recordsFrom kind parent 0 length u := by
    rw [relatedRecords_eq, Draw.bind_eq, hlength]
    rfl
  refine ⟨hlength, hlow, hhigh, hwhole, fun t => ⟨?_, ?_, ?_⟩⟩
  · -- Where the whole batch is drawn, so is its front.
    intro whole w hw
    rw [hwhole] at hw
    obtain ⟨v, hv⟩ := recordsFrom_take (Nat.min_le_right t length) hw
    refine ⟨(yields_recordsFrom kind parent 0 length u whole w hw).1,
      { kind, parent, length, taken := min t length }, v, ?_⟩
    rw [Batch.calls_fresh, Draw.bind_ok_iff]
    exact ⟨_, v, hv, rfl⟩
  · intro answers rest v h
    rw [Batch.calls_fresh, Draw.bind_ok_iff] at h
    obtain ⟨records, v', hrecords, hpure⟩ := h
    obtain ⟨hanswers, rfl⟩ := Draw.pure_ok_iff.1 hpure
    obtain ⟨rfl, rfl⟩ := Prod.mk.inj hanswers
    obtain ⟨hcount, hgood⟩ := yields_recordsFrom kind parent 0 _ u records _ hrecords
    refine ⟨records, rfl, hcount, ?_, hrecords, rfl, Nat.min_le_right t length, rfl, ?_⟩
    · intro j hj
      have hplace := hgood j hj
      rw [Nat.zero_add] at hplace
      exact ⟨hplace.id_eq, hplace.parent_eq⟩
    · -- An end was answered, so there were more calls than documents.
      intro hnone k z
      have hend : length ≤ min t length := by
        rcases List.mem_append.1 hnone with hsome | hreplicate
        · simp at hsome
        · have hcalls := (List.mem_replicate.1 hreplicate).1
          omega
      rw [Batch.calls_end hend]
      rfl
  · intro α next
    rw [Draw.bind_eq, hstart, Draw.bind_eq, hlength]
    show ((Batch.calls _ t : Draw σ _) >>= fun _ => next) u =
      ((recordsFrom kind parent 0 (min t length)) >>= fun _ => next) u
    rw [Batch.calls_fresh]
    simp only [bind_assoc, pure_bind]

/-- Two words again and again; the first is the middle of all words. -/
def twoWords : Source Script where
  stream := { words := #[2147483648, 0] }
  limit := 1000

/-- Five calls on a batch of two documents: both are handed out, and then ends that draw nothing. -/
theorem two_inlines_and_ends : ∃ b u answers rest v,
    Batch.start .inline 7 twoWords = .ok (b, u) ∧ b.calls 5 u = .ok ((answers, rest), v) ∧
      answers.map (Option.map RelatedRecord.id) =
        [some "INLINE000007:00", some "INLINE000007:01", none, none, none] ∧
      rest.remaining = 0 ∧ ∀ k (z : Source Script),
        rest.calls k z = .ok ((List.replicate k none, rest), z) := by
  obtain ⟨hopens, hbatch⟩ := batch_handed_out_call_by_call .inline 7 twoWords
  obtain ⟨b, u, hstart⟩ := hopens (by decide)
  have hok : ((Batch.start .inline 7 >>= fun b => b.calls 5) twoWords).toOption.any
      (fun drawn => decide (drawn.1.1.map (Option.map RelatedRecord.id) =
        [some "INLINE000007:00", some "INLINE000007:01", none, none, none])) = true := by
    decide +kernel
  obtain ⟨⟨⟨answers, rest⟩, v⟩, hdraw, hids⟩ := exists_ok_of_any hok
  have hids := of_decide_eq_true hids
  obtain ⟨b', u', hstart', hcalls⟩ := Draw.bind_ok_iff.1 hdraw
  rw [hstart] at hstart'
  cases hstart'
  obtain ⟨-, -, hmost, -, hcall⟩ := hbatch b u hstart
  obtain ⟨records, rfl, -, -, -, -, -, hremaining, hends⟩ := (hcall 5).2.1 answers rest v hcalls
  refine ⟨b, u, _, rest, v, hstart, hcalls, hids, ?_, hends ?_⟩
  · -- Five calls are more than an inline batch has documents.
    have hfew : b.length ≤ 3 := hmost
    omega
  · have hnone : none ∈ (records.map some ++ List.replicate (5 - b.length) none).map
        (Option.map RelatedRecord.id) := by
      rw [hids]
      decide
    simpa using hnone

end LinkedDocs.Generator
