import LinkedDocs.Proofs.GreedyText
import LinkedDocs.Proofs.TakenWords
import Mathlib.Data.List.Induction

/-!
# When free text can be produced

A round that begins with a piece below the limit ends, as each further piece makes
the text longer; a round that begins with another piece is lost. So text is
returned in the first round whose first piece is below the limit. Some words draw
the shortest piece that there is, and no words draw a shorter one; so text can be
produced exactly if that piece is below the limit.

* `bounded_restOfRound`: a round takes a bounded number of words.
* `FirstShort`: the first round whose first piece is below the limit.
* `fill_returns`: where there is such a round, and the words do not run out,
  filling up ends with it.
* `leastPiece`: the length of the shortest piece.
* `text_producible_iff`: whole texts.

Lengths are counted in UTF-8 bytes.
-/

namespace LinkedDocs.Prose

open LinkedDocs.Random LinkedDocs.Random.Draw

variable {σ : Type}

/-! ## Sizes of pieces that are joined -/

/-- The first piece is no longer than all of them. -/
theorem size_le_joined (separator : Char) (first : String) (rest : List String) :
    first.utf8ByteSize ≤ (joined separator (first :: rest)).utf8ByteSize := by
  by_cases hrest : rest = []
  · exact Nat.le_of_eq (by rw [hrest, joined_singleton])
  · rw [joined, ← List.singleton_append,
      String.intercalate_append_of_ne_nil (List.cons_ne_nil _ _) hrest,
      String.intercalate_singleton, String.utf8ByteSize_append, String.utf8ByteSize_append,
      Nat.add_assoc]
    exact Nat.le_add_right _ _

/-- Pieces of a least length, with a separator behind each but the last. -/
theorem mul_le_size_joined (separator : Char) {least : Nat} {pieces : List String}
    (hne : pieces ≠ []) (hall : ∀ piece ∈ pieces, least ≤ piece.utf8ByteSize) :
    pieces.length * (least + 1) ≤ (joined separator pieces).utf8ByteSize + 1 := by
  induction pieces using List.reverseRecOn with
  | nil => exact absurd rfl hne
  | append_singleton front last ih =>
    have hlast := hall last (List.mem_append_right _ (List.mem_singleton_self last))
    rw [List.length_append, List.length_singleton, Nat.succ_mul]
    by_cases hfront : front = []
    · rw [hfront, List.nil_append, joined_singleton, List.length_nil]
      omega
    · have hjoined := size_joined separator hfront last
      have hpos := separator.utf8Size_pos
      have := ih hfront fun piece hpiece => hall piece (List.mem_append_left _ hpiece)
      omega

/-! ## The end of a round -/

section

variable (limit : Nat) (separator : Char) {most : Nat} {piece : Draw σ String}

/-- Each piece makes the text longer, so a round ends after a bounded number of words. -/
theorem bounded_restOfRound (h : Bounded piece most) (kept : List String) (size : Nat) :
    Bounded (restOfRound limit separator piece kept size) ((limit - size + 1) * most) := by
  induction hn : limit - size using Nat.strongRecOn generalizing kept size with
  | ind n ih =>
    intro s hs
    rw [Nat.succ_mul] at hs ⊢
    obtain ⟨next, t, hnext, ht⟩ := h s (by omega)
    rw [restOfRound, hnext]
    dsimp only
    by_cases hlt : size + separator.utf8Size + next.utf8ByteSize < limit
    · rw [if_pos hlt]
      have hpos := separator.utf8Size_pos
      have hstep : (limit - (size + separator.utf8Size + next.utf8ByteSize) + 1) * most ≤
          n * most := Nat.mul_le_mul_right _ (by omega)
      obtain ⟨pieces, u, hrest, hu⟩ := ih (limit - (size + separator.utf8Size +
        next.utf8ByteSize)) (by omega) (next :: kept) _ rfl t (by omega)
      exact ⟨pieces, u, hrest, by omega⟩
    · rw [if_neg hlt]
      exact ⟨kept.reverse, t, rfl, by omega⟩

/-- A round whose first piece is too long is passed over, if that piece took a word. -/
theorem fill_of_too_long {s t : Source σ} {first : String} (hfirst : piece s = .ok (first, t))
    (hlong : limit ≤ first.utf8ByteSize) (hless : t.remaining < s.remaining) :
    fill limit separator piece s = fill limit separator piece t := by
  have hround : round limit separator piece s = .ok ([], t) := by
    refine Draw.bind_ok_iff.2 ⟨first, t, hfirst, ?_⟩
    rw [if_neg (Nat.not_lt.2 hlong)]
    rfl
  rw [fill.eq_def limit separator piece s, hround]
  exact if_pos hless

end

/-! ## The round that is kept -/

/-- The first round whose first piece is below the limit begins here; those before it are lost. -/
structure FirstShort (limit : Nat) (piece : Draw σ String) (s u : Source σ) (lost : List String) :
    Prop extends Lost limit piece s u lost where
  short : ∃ first v, piece u = .ok (first, v) ∧ first.utf8ByteSize < limit

/-- A round that ends a text begins with a piece below its limit. -/
theorem LastRound.short {limit : Nat} {separator : Char} {piece : Draw σ String} {u t : Source σ}
    {kept : List String} {dropped : String}
    (h : LastRound limit separator piece u t kept dropped) :
    ∃ first v, piece u = .ok (first, v) ∧ first.utf8ByteSize < limit := by
  obtain ⟨first, v, rest, hfirst, -, heq⟩ := times_succ_ok_iff.1 h.drawn
  refine ⟨first, v, hfirst, ?_⟩
  rcases hkept : kept with - | ⟨head, others⟩
  · exact absurd hkept h.ne_nil
  · rw [hkept, List.cons_append, List.cons.injEq] at heq
    rw [← heq.1]
    have hlt := h.size_lt
    rw [hkept] at hlt
    exact Nat.lt_of_le_of_lt (size_le_joined separator head others) hlt

section

variable [WordStream σ] {limit most : Nat} {separator : Char} {piece : Draw σ String}
  {s u : Source σ} {lost : List String}

/-- Where more words are allowed, the same rounds are lost, and the same round is the first. -/
theorem FirstShort.allow (hlocal : Local piece) (h : FirstShort limit piece s u lost)
    (more : Nat) : FirstShort limit piece (s.allow more) (u.allow more) lost where
  drawn := (hlocal.times lost.length).allow h.drawn more
  too_long := h.too_long
  short := by
    obtain ⟨first, v, hfirst, hlt⟩ := h.short
    exact ⟨first, v.allow more, hlocal.allow hfirst more, hlt⟩

/-- Rounds that are lost are passed over. -/
theorem fill_of_firstShort (hlocal : Local piece) (h : FirstShort limit piece s u lost) :
    fill limit separator piece s = fill limit separator piece u := by
  obtain ⟨⟨hdrawn, hlong⟩, first, v, hfirst, hlt⟩ := h
  induction lost generalizing s with
  | nil =>
    cases hdrawn
    rfl
  | cons head lost ih =>
    obtain ⟨head', t, rest, hhead, hrest, heq⟩ := times_succ_ok_iff.1 hdrawn
    cases heq
    obtain ⟨hheadlong, hothers⟩ := List.forall_mem_cons.1 hlong
    rcases hlocal.remaining_lt hhead with hless | ⟨-, hsame⟩
    · rw [fill_of_too_long limit separator hhead hheadlong hless]
      exact ih hrest hothers
    · -- A piece that takes no word would be too long in every round.
      cases (hsame u).symm.trans hfirst
      omega

/--
Where a round begins with a piece below the limit, filling up ends with the first
such round, if there are words enough to end it.
-/
theorem fill_returns (separator : Char) (hlocal : Local piece) (hbounded : Bounded piece most)
    (h : FirstShort limit piece s u lost) (henough : most + (limit + 1) * most ≤ u.remaining) :
    ∃ kept t dropped, fill limit separator piece s = .ok (kept, t) ∧
      LastRound limit separator piece u t kept dropped := by
  rw [fill_of_firstShort hlocal h]
  obtain ⟨first, v, hfirst, hlt⟩ := h.short
  have hv : u.remaining ≤ v.remaining + most := by
    obtain ⟨_, _, hagain, hv⟩ := hbounded u (by omega)
    cases hagain.symm.trans hfirst
    exact hv
  have hroom : (limit - first.utf8ByteSize + 1) * most ≤ (limit + 1) * most :=
    Nat.mul_le_mul_right _ (by omega)
  obtain ⟨kept, t, hrest, -⟩ := bounded_restOfRound limit separator hbounded [first]
    first.utf8ByteSize v (by omega)
  have hround : round limit separator piece u = .ok (kept, t) := by
    refine Draw.bind_ok_iff.2 ⟨first, v, hfirst, ?_⟩
    rw [if_pos hlt]
    exact hrest
  obtain ⟨dropped, hlast⟩ := (round_ok hround).resolve_left <| by
    rintro ⟨-, first', hfirst', hlong⟩
    cases hfirst'.symm.trans hfirst
    omega
  refine ⟨kept, t, dropped, ?_, hlast⟩
  rw [fill.eq_def, hround]
  rcases kept with - | ⟨head, others⟩
  · exact absurd rfl hlast.ne_nil
  · rfl

end

/-! ## The shortest piece -/

/-- The length of the shortest word; an empty list counts as the word that stands in for it. -/
def shortest (words : Array String) : Nat :=
  (words.toList.map String.utf8ByteSize).min?.getD Vocabulary.fallback.utf8ByteSize

theorem shortest_le {words : Array String} {w : String} (h : w ∈ words) :
    shortest words ≤ w.utf8ByteSize := by
  have hmem := List.mem_map_of_mem (f := String.utf8ByteSize) h.val
  unfold shortest
  rcases hmin : (words.toList.map String.utf8ByteSize).min? with - | least
  · rw [List.min?_eq_none_iff] at hmin
    rw [hmin] at hmem
    cases hmem
  · exact (List.min?_eq_some_iff.1 hmin).2 _ hmem

/-- A list that is not empty has a shortest word. -/
theorem exists_shortest {words : Array String} (hne : words ≠ #[]) :
    ∃ w ∈ words, w.utf8ByteSize = shortest words := by
  unfold shortest
  rcases hmin : (words.toList.map String.utf8ByteSize).min? with - | least
  · rw [List.min?_eq_none_iff, List.map_eq_nil_iff, Array.toList_eq_nil_iff] at hmin
    exact absurd hmin hne
  · obtain ⟨w, hw, hsize⟩ := List.mem_map.1 (List.min?_mem hmin)
    exact ⟨w, Array.mem_def.2 hw, hsize⟩

/-- The length of the shortest piece: a word, or a sentence of three words. -/
def leastPiece (limit : Nat) (words : Array String) : Nat :=
  if honoured limit < wordsBelow then shortest words else 3 * shortest words + 3

variable [WordStream σ] [Lexicon σ]

section

variable {words : Array String}

/-- No word is shorter than the shortest. -/
theorem yields_word_size :
    Yields (word (.custom words) : Draw σ String) (shortest words ≤ ·.utf8ByteSize) := by
  by_cases hne : words = #[]
  · subst hne
    refine (yields_pick #[] _).mono fun w hw => ?_
    obtain rfl : w = Vocabulary.fallback := hw.resolve_left (Array.not_mem_empty w)
    exact Nat.le_refl _
  · exact (yields_pick_mem hne _).mono fun w hw => shortest_le hw

/-- The shortest word can be drawn, if 64 bits hold the number of words. -/
theorem canYield_word_shortest (hsize : words.size < UInt64.size) :
    ∃ w, CanYield (word (.custom words) : Draw σ String) w ∧ w.utf8ByteSize = shortest words := by
  by_cases hne : words = #[]
  · subst hne
    exact ⟨Vocabulary.fallback, canYield_pure _, rfl⟩
  · obtain ⟨w, hw, hshortest⟩ := exists_shortest hne
    exact ⟨w, canYield_pick hsize hw _, hshortest⟩

/-- A sentence has three words, two blanks and a period at least. -/
theorem yields_sentence_size :
    Yields (sentence (.custom words) : Draw σ String)
      (3 * shortest words + 3 ≤ ·.utf8ByteSize) := by
  refine (yields_within (by decide)).bind fun count hcount => ?_
  refine (yields_word_size.times count).bind fun drawn hdrawn => yields_pure ?_
  have hne : drawn ≠ [] := by
    rintro rfl
    have := hdrawn.1
    rw [List.length_nil] at this
    omega
  have hjoined := mul_le_size_joined ' ' hne hdrawn.2
  have hthree : 3 * (shortest words + 1) ≤ drawn.length * (shortest words + 1) :=
    Nat.mul_le_mul_right _ (by omega)
  rw [utf8ByteSize_sentenceOf]
  omega

/-- A sentence of three of the shortest words can be drawn. -/
theorem canYield_sentence_shortest (hsize : words.size < UInt64.size) :
    ∃ text, CanYield (sentence (.custom words) : Draw σ String) text ∧
      text.utf8ByteSize = 3 * shortest words + 3 := by
  obtain ⟨w, hw, hshortest⟩ := canYield_word_shortest (σ := σ) hsize
  refine ⟨sentenceOf (List.replicate 3 w), ?_, ?_⟩
  · exact (canYield_within (Nat.le_refl 3) (by decide) (by decide)).bind
      ((hw.times 3).bind (canYield_pure _))
  · have hspace : ' '.utf8Size = 1 := by decide
    have htwo : (joined ' ' [w, w]).utf8ByteSize = _ :=
      size_joined ' ' (List.cons_ne_nil w []) w
    have hthree : (joined ' ' (List.replicate 3 w)).utf8ByteSize = _ :=
      size_joined ' ' (List.cons_ne_nil w [w]) w
    rw [joined_singleton] at htwo
    rw [utf8ByteSize_sentenceOf, hthree, htwo, hspace, hshortest]
    omega

/-- A paragraph has one sentence at least. -/
theorem yields_paragraph_size :
    Yields (paragraph (.custom words) : Draw σ String)
      (3 * shortest words + 3 ≤ ·.utf8ByteSize) := by
  refine (yields_within (by decide)).bind fun count hcount => ?_
  refine (yields_sentence_size.times count).bind fun parts hparts => yields_pure ?_
  rcases hrest : parts with - | ⟨first, rest⟩
  · have := hparts.1
    rw [hrest, List.length_nil] at this
    omega
  · have hfirst := hparts.2 first (hrest ▸ List.mem_cons_self)
    exact Nat.le_trans hfirst (size_le_joined ' ' first rest)

/-- A paragraph of one shortest sentence can be drawn. -/
theorem canYield_paragraph_shortest (hsize : words.size < UInt64.size) :
    ∃ text, CanYield (paragraph (.custom words) : Draw σ String) text ∧
      text.utf8ByteSize = 3 * shortest words + 3 := by
  obtain ⟨part, hpart, hshortest⟩ := canYield_sentence_shortest (σ := σ) hsize
  refine ⟨part, ?_, hshortest⟩
  have hjoined : " ".intercalate (List.replicate 1 part) = part := joined_singleton ' ' part
  refine (canYield_within (Nat.le_refl 1) (by decide) (by decide)).bind ((hpart.times 1).bind ?_)
  rw [hjoined]
  exact canYield_pure part

/-- No piece is shorter than the shortest. -/
theorem yields_pieceOf_size (limit : Nat) :
    Yields (pieceOf limit (.custom words) : Draw σ String)
      (leastPiece limit words ≤ ·.utf8ByteSize) := by
  unfold pieceOf leastPiece
  by_cases hwords : honoured limit < wordsBelow
  · rw [if_pos hwords, if_pos hwords]
    exact yields_word_size
  · rw [if_neg hwords, if_neg hwords]
    exact yields_ite (fun _ => yields_sentence_size) fun _ => yields_paragraph_size

/-- Some words draw a shortest piece. -/
theorem canYield_pieceOf (limit : Nat) (hsize : words.size < UInt64.size) :
    ∃ piece, CanYield (pieceOf limit (.custom words) : Draw σ String) piece ∧
      piece.utf8ByteSize = leastPiece limit words := by
  unfold pieceOf leastPiece
  by_cases hwords : honoured limit < wordsBelow
  · rw [if_pos hwords, if_pos hwords]
    exact canYield_word_shortest hsize
  · rw [if_neg hwords, if_neg hwords]
    split
    · exact canYield_sentence_shortest hsize
    · exact canYield_paragraph_shortest hsize

end

/-! ## Pieces and the words that they take -/

section

variable (vocabulary : Vocabulary)

theorem local_sentence : Local (sentence vocabulary : Draw σ String) :=
  (local_uniform local_word).bind fun count =>
    ((local_pick _ _).times count).bind fun _ => local_pure _

theorem local_paragraph : Local (paragraph vocabulary : Draw σ String) :=
  (local_uniform local_word).bind fun count =>
    ((local_sentence vocabulary).times count).bind fun _ => local_pure _

/-- What a piece is depends on the words that it takes alone. -/
theorem local_pieceOf (limit : Nat) : Local (pieceOf limit vocabulary : Draw σ String) :=
  local_ite (local_pick _ _) (local_ite (local_sentence vocabulary) (local_paragraph vocabulary))

/-- A sentence takes two words for its length, and four for each of up to eight of its own. -/
theorem bounded_sentence : Bounded (sentence vocabulary : Draw σ String) (2 + 8 * 4) := by
  have hcount : Bounded (within 3 8 : Draw σ Nat) 2 := bounded_uniform bounded_word (by decide)
  refine hcount.bind (yields_within (by decide)) fun count hcount => ?_
  refine (((bounded_pick _ _).times count).mono ?_).map_pure _
  exact Nat.mul_le_mul_right 4 hcount.2

/-- The most words that a piece takes: those of four sentences, and two for their number. -/
def mostWords : Nat := 2 + 4 * (2 + 8 * 4)

theorem bounded_paragraph : Bounded (paragraph vocabulary : Draw σ String) mostWords := by
  have hcount : Bounded (within 1 4 : Draw σ Nat) 2 := bounded_uniform bounded_word (by decide)
  refine hcount.bind (yields_within (by decide)) fun count hcount => ?_
  refine (((bounded_sentence vocabulary).times count).mono ?_).map_pure _
  exact Nat.mul_le_mul_right _ hcount.2

/-- A piece takes a bounded number of words. -/
theorem bounded_pieceOf (limit : Nat) :
    Bounded (pieceOf limit vocabulary : Draw σ String) mostWords := by
  unfold pieceOf
  split
  · exact (bounded_pick _ _).mono (by decide)
  · split
    · exact (bounded_sentence vocabulary).mono (by decide)
    · exact bounded_paragraph vocabulary

end

/-! ## Text that can be produced -/

/-- The shortest piece is below the limit; of words, one byte is kept for the period. -/
def Producible (limit : Nat) (words : Array String) : Prop :=
  if max limit leastLimit < wordsBelow then shortest words < max limit leastLimit - 1
  else 3 * shortest words + 3 < max limit leastLimit

instance (limit : Nat) (words : Array String) : Decidable (Producible limit words) :=
  inferInstanceAs (Decidable (ite _ _ _))

/-- A text is producible exactly if the shortest piece fits into a round. -/
theorem producible_iff {limit : Nat} {words : Array String} :
    Producible limit words ↔ leastPiece limit words < room limit := by
  unfold Producible leastPiece room honoured
  split
  · exact Iff.rfl
  · exact Iff.rfl

/-- A text is made of the first round whose first piece is below the limit. -/
theorem firstShort_of_text {limit : Nat} {vocabulary : Vocabulary} {s t : Source σ}
    {result : String} (h : text limit vocabulary s = .ok (result, t)) :
    ∃ lost u kept dropped,
      FirstShort (room limit) (pieceOf limit vocabulary) s u lost ∧
      LastRound (room limit) (separatorOf limit) (pieceOf limit vocabulary) u t kept dropped ∧
      result = textOf limit kept := by
  obtain ⟨kept, hkept, rfl⟩ := text_ok_iff.1 h
  obtain ⟨lost, u, dropped, hlost, hlast⟩ := fill_ok hkept
  exact ⟨lost, u, kept, dropped, ⟨hlost, hlast.short⟩, hlast, rfl⟩

/-- Where a round begins with a short piece, there is a text, if enough words are allowed. -/
theorem text_of_firstShort {limit : Nat} {vocabulary : Vocabulary} {s u : Source σ}
    {lost : List String}
    (h : FirstShort (room limit) (pieceOf limit vocabulary) s u lost) :
    ∃ enough, ∀ more ≥ enough, ∃ t kept dropped,
      LastRound (room limit) (separatorOf limit) (pieceOf limit vocabulary) (u.allow more) t kept
        dropped ∧
      text limit vocabulary (s.allow more) = .ok (textOf limit kept, t) := by
  refine ⟨mostWords + (room limit + 1) * mostWords + u.drawn, ?_⟩
  intro more hmore
  have hlocal := local_pieceOf (σ := σ) vocabulary limit
  have henough : mostWords + (room limit + 1) * mostWords ≤ (u.allow more).remaining := by
    show _ ≤ u.limit + more - u.drawn
    omega
  obtain ⟨kept, t, dropped, hfill, hlast⟩ := fill_returns (separatorOf limit) hlocal
    (bounded_pieceOf vocabulary limit) (h.allow hlocal more) henough
  exact ⟨t, kept, dropped, hlast, text_ok_iff.2 ⟨kept, hfill, rfl⟩⟩

/-- If a text was drawn, its limit and its words can produce one. -/
theorem producible_of_text {limit : Nat} {words : Array String} {s t : Source σ}
    {result : String} (h : text limit (.custom words) s = .ok (result, t)) :
    Producible limit words := by
  obtain ⟨lost, u, kept, dropped, ⟨-, first, v, hfirst, hlt⟩, -, -⟩ := firstShort_of_text h
  have hleast := yields_pieceOf_size limit u first v hfirst
  exact producible_iff.2 (Nat.lt_of_le_of_lt hleast hlt)

/--
Of every list of words that a machine can hold, and for every limit: some source
yields a text exactly if the shortest piece is below the limit, and otherwise no
source does, whatever its words are and however many of them may be taken. A text
is made of the first round whose first piece is below the limit; and wherever
there is such a round, there is a text, if only enough words may be taken.
-/
theorem text_producible_iff (limit : Nat) (words : Array String)
    (hsize : words.size < UInt64.size) :
    ((∃ (s t : Source Script) (result : String),
      text limit (.custom words) s = .ok (result, t)) ↔ Producible limit words) ∧
    (¬ Producible limit words → ∀ (σ : Type) [WordStream σ] [Lexicon σ] (s t : Source σ)
      (result : String), text limit (.custom words) s ≠ .ok (result, t)) ∧
    (∀ (σ : Type) [WordStream σ] [Lexicon σ] (s t : Source σ) (result : String),
      text limit (.custom words) s = .ok (result, t) → ∃ lost u kept dropped,
        FirstShort (room limit) (pieceOf limit (.custom words)) s u lost ∧
        LastRound (room limit) (separatorOf limit) (pieceOf limit (.custom words)) u t kept
          dropped ∧
        result = textOf limit kept) ∧
    ∀ (σ : Type) [WordStream σ] [Lexicon σ] (s u : Source σ) (lost : List String),
      FirstShort (room limit) (pieceOf limit (.custom words)) s u lost →
      ∃ enough, ∀ more ≥ enough, ∃ t kept dropped,
        LastRound (room limit) (separatorOf limit) (pieceOf limit (.custom words)) (u.allow more)
          t kept dropped ∧
        text limit (.custom words) (s.allow more) = .ok (textOf limit kept, t) := by
  refine ⟨⟨?_, ?_⟩, ?_, fun σ _ _ s t result h => firstShort_of_text h,
    fun σ _ _ s u lost h => text_of_firstShort h⟩
  · rintro ⟨s, t, result, htext⟩
    exact producible_of_text htext
  · intro hproducible
    obtain ⟨first, ⟨ws, hreads⟩, hleast⟩ := canYield_pieceOf (σ := Script) limit hsize
    obtain ⟨s, v, htakes⟩ := exists_takes ws
    have hshort : FirstShort (room limit) (pieceOf limit (.custom words)) s s [] := by
      refine ⟨⟨times_zero, List.forall_mem_nil _⟩, first, v, hreads s v htakes, ?_⟩
      rw [hleast]
      exact producible_iff.1 hproducible
    obtain ⟨enough, htexts⟩ := text_of_firstShort hshort
    obtain ⟨t, kept, dropped, -, htext⟩ := htexts enough (Nat.le_refl enough)
    exact ⟨_, t, _, htext⟩
  · intro hnot σ _ _ s t result htext
    exact hnot (producible_of_text htext)

/-- At the least limit, a word of one letter makes a text, and one of four letters never does. -/
theorem text_of_one_letter :
    (∃ (s t : Source Script) (result : String), text 0 (.custom #["four", "a"]) s =
      .ok (result, t)) ∧
    ∀ (σ : Type) [WordStream σ] [Lexicon σ] (s t : Source σ) (result : String),
      text 0 (.custom #["four"]) s ≠ .ok (result, t) := by
  constructor
  · exact (text_producible_iff 0 #["four", "a"] (by decide)).1.2 (by decide)
  · exact (text_producible_iff 0 #["four"] (by decide)).2.1 (by decide)

end LinkedDocs.Prose
