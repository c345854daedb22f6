import LinkedDocs.Proofs.FreeText
import LinkedDocs.Proofs.Work

/-!
# Text is filled greedily

Free text keeps as many of the pieces of its last round as fit: they stay below
the limit when they are joined, with the next piece they would not, and only that
one is dropped. Each round before it drew one piece, which was too long.

* `text_eq`: text of every limit is pieces that are filled up and joined.
* `yields_text_lt`: the length of text.
* `text_filled_greedily`: whole texts.

Lengths are counted in UTF-8 bytes.
-/

namespace LinkedDocs.Prose

open LinkedDocs.Random LinkedDocs.Random.Draw

variable {σ : Type}

/-! ## Sizes and last characters -/

/-- A letter and its capital have as many bytes. -/
theorem utf8Size_toUpper (c : Char) : c.toUpper.utf8Size = c.utf8Size := by
  have hletters : ∀ n < 123, 97 ≤ n →
      (Char.ofNat n).toUpper.utf8Size = (Char.ofNat n).utf8Size := by
    decide
  by_cases h : 97 ≤ c.toNat ∧ c.toNat < 123
  · have hletter := hletters c.toNat h.2 h.1
    rwa [Char.ofNat_toNat] at hletter
  · rw [Evaluation.toUpper_eq_self h]

/-- Capitalizing keeps the length. -/
theorem utf8ByteSize_capitalize (text : String) :
    (capitalize text).utf8ByteSize = text.utf8ByteSize := by
  rw [utf8ByteSize_eq, utf8ByteSize_eq, capitalize, String.toList_ofList]
  rcases text.toList with - | ⟨c, rest⟩
  · rfl
  · rw [capitalizeChars, utf8_cons, utf8_cons, List.length_append, List.length_append,
      String.length_utf8EncodeChar, String.length_utf8EncodeChar, utf8Size_toUpper]

/-- A sentence has one byte more than its words, for the period. -/
theorem utf8ByteSize_sentenceOf (words : List String) :
    (sentenceOf words).utf8ByteSize = (joined ' ' words).utf8ByteSize + 1 := by
  rw [sentenceOf, String.utf8ByteSize_append, utf8ByteSize_capitalize]
  rfl

/-- The text ends with a period. -/
def EndsWithPeriod (text : String) : Prop := text.toList.getLast? = some '.'

theorem EndsWithPeriod.ne_empty {text : String} (h : EndsWithPeriod text) : text ≠ "" := by
  rintro rfl
  cases h

/-- The end of a text does not depend on what stands in front. -/
theorem endsWithPeriod_append (front : String) {text : String} (h : EndsWithPeriod text) :
    EndsWithPeriod (front ++ text) := by
  rw [EndsWithPeriod, String.toList_append, List.getLast?_append, h]
  rfl

/-- A sentence of any words ends with a period. -/
theorem endsWithPeriod_sentenceOf (words : List String) : EndsWithPeriod (sentenceOf words) :=
  endsWithPeriod_append _ rfl

/-- Pieces that are joined end as the last of them does. -/
theorem endsWithPeriod_joined (separator : Char) {pieces : List String} (hne : pieces ≠ [])
    (hall : ∀ piece ∈ pieces, EndsWithPeriod piece) : EndsWithPeriod (joined separator pieces) := by
  rw [← List.dropLast_concat_getLast hne]
  have hlast := hall _ (List.getLast_mem hne)
  by_cases hfront : pieces.dropLast = []
  · rw [hfront, List.nil_append, joined_singleton]
    exact hlast
  · rw [joined, String.intercalate_append_of_ne_nil hfront (List.cons_ne_nil _ _),
      String.intercalate_singleton]
    exact endsWithPeriod_append _ hlast

/-! ## Text of every limit -/

variable [WordStream σ] [Lexicon σ]

/-- The limit that is honoured. -/
def honoured (limit : Nat) : Nat := max limit leastLimit

/-- What pieces that are joined have to stay below; one byte is kept for the period of words. -/
def room (limit : Nat) : Nat :=
  if honoured limit < wordsBelow then honoured limit - 1 else honoured limit

/-- What stands between two pieces of a text. -/
def separatorOf (limit : Nat) : Char := if honoured limit < sentencesBelow then ' ' else '\n'

/-- The pieces of a text: words, sentences or paragraphs. -/
def pieceOf (limit : Nat) (vocabulary : Vocabulary) : Draw σ String :=
  if honoured limit < wordsBelow then word vocabulary
  else if honoured limit < sentencesBelow then sentence vocabulary
  else paragraph vocabulary

/-- The text of its pieces: words become a sentence, other pieces are joined. -/
def textOf (limit : Nat) (pieces : List String) : String :=
  if honoured limit < wordsBelow then sentenceOf pieces else joined (separatorOf limit) pieces

/-- Text is pieces that are filled up and joined. -/
theorem text_eq (limit : Nat) (vocabulary : Vocabulary) :
    (text limit vocabulary : Draw σ String) = do
      let pieces ← fill (room limit) (separatorOf limit) (pieceOf limit vocabulary)
      return textOf limit pieces := by
  have hsentences : wordsBelow < sentencesBelow := by decide
  unfold text room textOf separatorOf pieceOf honoured
  dsimp only
  by_cases hwords : max limit leastLimit < wordsBelow
  · simp only [if_pos hwords, if_pos (Nat.lt_trans hwords hsentences)]
  · by_cases hbelow : max limit leastLimit < sentencesBelow
    · simp only [if_neg hwords, if_pos hbelow]
      rfl
    · simp only [if_neg hwords, if_neg hbelow]
      rfl

/-- Every sentence that is drawn ends with a period. -/
theorem yields_sentence_period (vocabulary : Vocabulary) :
    Yields (sentence vocabulary : Draw σ String) EndsWithPeriod :=
  (yields_true _).bind fun _ _ => (yields_true _).bind fun words _ =>
    yields_pure (endsWithPeriod_sentenceOf words)

/-- Every paragraph that is drawn ends with a period. -/
theorem yields_paragraph_period (vocabulary : Vocabulary) :
    Yields (paragraph vocabulary : Draw σ String) EndsWithPeriod := by
  refine (yields_within (by decide)).bind fun count hcount => ?_
  refine ((yields_sentence_period vocabulary).times count).bind fun parts hparts => yields_pure ?_
  refine endsWithPeriod_joined ' ' ?_ hparts.2
  rintro rfl
  have := hparts.1
  rw [List.length_nil] at this
  omega

/-- Pieces that fit make a text that is shorter than the limit and ends with a period. -/
theorem textOf_fits {limit : Nat} {vocabulary : Vocabulary} {s t : Source σ}
    {kept : List String}
    (hkept : fill (room limit) (separatorOf limit) (pieceOf limit vocabulary) s = .ok (kept, t)) :
    (textOf limit kept).utf8ByteSize < honoured limit ∧ EndsWithPeriod (textOf limit kept) := by
  obtain ⟨_, _, _, _, hlast⟩ := fill_ok hkept
  have hlt := hlast.size_lt
  unfold textOf
  by_cases hwords : honoured limit < wordsBelow
  · have hspace : separatorOf limit = ' ' :=
      if_pos (Nat.lt_trans hwords (show wordsBelow < sentencesBelow by decide))
    rw [if_pos hwords, utf8ByteSize_sentenceOf]
    rw [room, if_pos hwords, hspace] at hlt
    refine ⟨?_, endsWithPeriod_sentenceOf kept⟩
    omega
  · rw [if_neg hwords]
    rw [room, if_neg hwords] at hlt
    refine ⟨hlt, endsWithPeriod_joined _ hlast.ne_nil (yields_fill ?_ s kept t hkept).all⟩
    unfold pieceOf
    rw [if_neg hwords]
    exact yields_ite (fun _ => yields_sentence_period vocabulary)
      fun _ => yields_paragraph_period vocabulary

/-- Pieces that were filled up are behind every text. -/
theorem text_ok_iff {limit : Nat} {vocabulary : Vocabulary} {s t : Source σ} {result : String} :
    text limit vocabulary s = .ok (result, t) ↔ ∃ kept,
      fill (room limit) (separatorOf limit) (pieceOf limit vocabulary) s = .ok (kept, t) ∧
        result = textOf limit kept := by
  rw [text_eq, Draw.bind_ok_iff]
  constructor
  · rintro ⟨kept, u, hkept, hpure⟩
    obtain ⟨rfl, rfl⟩ := Draw.pure_ok_iff.1 hpure
    exact ⟨kept, hkept, rfl⟩
  · rintro ⟨kept, hkept, rfl⟩
    exact ⟨kept, t, hkept, rfl⟩

/-- Text ends with a period and is shorter than its limit. -/
theorem yields_text_fits (limit : Nat) (vocabulary : Vocabulary) :
    Yields (text limit vocabulary : Draw σ String) fun text =>
      text.utf8ByteSize < honoured limit ∧ EndsWithPeriod text := by
  intro s result t hresult
  obtain ⟨kept, hkept, rfl⟩ := text_ok_iff.1 hresult
  exact textOf_fits hkept

/-- Text is shorter than its limit, in bytes and in characters. -/
theorem yields_text_lt {limit : Nat} (h : leastLimit ≤ limit) (vocabulary : Vocabulary) :
    Yields (text limit vocabulary : Draw σ String) fun text => text.length < limit := by
  refine (yields_text_fits limit vocabulary).mono fun text htext => ?_
  have hlt := htext.1
  rw [honoured, Nat.max_eq_left h] at hlt
  exact Nat.lt_of_le_of_lt (length_le_utf8ByteSize _) hlt

/--
Every text that is drawn is not empty, ends with a period and is shorter than its
limit, in bytes and in characters. Some rounds may have been lost, each with one
piece that was too long; the text is made of the pieces that the last round keeps,
which are as many as fit: it drew one piece more, with which they would have
reached the limit, and dropped that one.
-/
theorem text_filled_greedily {limit : Nat} {vocabulary : Vocabulary} {s t : Source σ}
    {result : String} (h : text limit vocabulary s = .ok (result, t)) :
    result ≠ "" ∧ result.toList.getLast? = some '.' ∧
      result.utf8ByteSize < max limit leastLimit ∧ result.length < max limit leastLimit ∧
      ∃ lost u kept dropped,
        Lost (room limit) (pieceOf limit vocabulary) s u lost ∧
        LastRound (room limit) (separatorOf limit) (pieceOf limit vocabulary) u t kept dropped ∧
        result = textOf limit kept := by
  obtain ⟨kept, hkept, rfl⟩ := text_ok_iff.1 h
  obtain ⟨hlt, hperiod⟩ := textOf_fits hkept
  obtain ⟨lost, u, dropped, hlost, hlast⟩ := fill_ok hkept
  exact ⟨hperiod.ne_empty, hperiod, hlt, Nat.lt_of_le_of_lt (length_le_utf8ByteSize _) hlt,
    lost, u, kept, dropped, hlost, hlast, rfl⟩

/-- The words whose places draw a word that is too long for 11 bytes, and three that are not. -/
def longWordFirst : Source Script where
  stream := { words := #[1431655766, 0, 2863311531, 0] }
  limit := 4

/-- A word that does not fit by itself costs a round; the text is that of the next one. -/
theorem long_word_lost : ∃ t lost u kept dropped,
    text 12 (.custom #["lorem", "extraordinary", "ipsum"]) longWordFirst =
      .ok ("Lorem.", t) ∧
    Lost 11 (word (.custom #["lorem", "extraordinary", "ipsum"])) longWordFirst u lost ∧
    LastRound 11 ' ' (word (.custom #["lorem", "extraordinary", "ipsum"])) u t kept dropped ∧
    "Lorem." = sentenceOf kept := by
  have hok : (text 12 (.custom #["lorem", "extraordinary", "ipsum"])
      longWordFirst).toOption.any (fun drawn => drawn.1 = "Lorem.") = true := by
    decide +kernel
  obtain ⟨⟨result, t⟩, htext, hresult⟩ := exists_ok_of_any hok
  obtain rfl : result = "Lorem." := of_decide_eq_true hresult
  obtain ⟨-, -, -, -, lost, u, kept, dropped, hlost, hlast, heq⟩ := text_filled_greedily htext
  exact ⟨t, lost, u, kept, dropped, htext, hlost, hlast, heq⟩

end LinkedDocs.Prose
