import LinkedDocs.Proofs.GreedyText

/-!
# Free text keeps to its vocabulary

Of a list of plain words, a sentence is three to eight and a paragraph one to four
sentences; longer text is whole sentences or whole paragraphs. Filling up drops a
piece as a whole, so no sentence is cut, and whatever stands between two pieces is a
blank. So the words of every text are words of the list.

* `IsSentence`, `IsParagraph`: what the pieces of text are.
* `KeepsTo`: the words of a text are words of a list.
* `yields_sentence_whole`, `yields_paragraph_whole`, `yields_text_keepsTo`: what is drawn.
* `prose_keeps_to_vocabulary`: sentences, paragraphs and texts.
-/

namespace LinkedDocs.Prose

open LinkedDocs.Random LinkedDocs.Random.Draw Evaluation Text

/-! ## Pieces of text -/

/-- Every word of the text is one of the list, in any case and with any periods behind. -/
def KeepsTo (vocabulary : List String) (text : String) : Prop :=
  ∀ w ∈ wordsOf text.toList, ∃ known ∈ vocabulary, sameLetters known.toList (bareWord w) = true

/-- Three to eight words of the list as a sentence. -/
structure IsSentence (vocabulary : List String) (text : String) : Prop where
  /-- The sentence is read back as the words that it is made of. -/
  drawn : ∃ words : List String, (∀ w ∈ words, w ∈ vocabulary) ∧ text = sentenceOf words ∧
    plainWords text.toList = words.map fun w => w.toList.map Char.toLower
  word_count : 3 ≤ (wordsOf text.toList).length ∧ (wordsOf text.toList).length ≤ 8
  period : text.toList.getLast? = some '.'

/-- One to four sentences with single spaces between them. -/
def IsParagraph (vocabulary : List String) (text : String) : Prop :=
  ∃ parts : List String, (1 ≤ parts.length ∧ parts.length ≤ 4) ∧
    (∀ part ∈ parts, IsSentence vocabulary part) ∧ text = joined ' ' parts

theorem keepsTo_iff {vocabulary : List String} {text : String} :
    KeepsTo vocabulary text ↔
      ∀ w ∈ plainWords text.toList, ∃ known ∈ vocabulary, known.toList.map Char.toLower = w := by
  rw [KeepsTo, plainWords, List.forall_mem_map]
  simp only [sameLetters, decide_eq_true_eq]

/-- A text keeps to a vocabulary exactly if the rule for vocabularies accepts it. -/
theorem keepsTo_iff_inVocabulary {vocabulary : List String} {text : String} :
    KeepsTo vocabulary text ↔ inVocabulary text vocabulary = true :=
  keepsTo_iff.trans inVocabulary_iff.symm

/-- Texts with a blank between them use the words that each of them uses. -/
theorem KeepsTo.joined {vocabulary : List String} {blank : Char} (h : isBlank blank = true)
    {pieces : List String} (hpieces : ∀ piece ∈ pieces, KeepsTo vocabulary piece) :
    KeepsTo vocabulary (joined blank pieces) := by
  rw [keepsTo_iff, plainWords_joined h]
  intro w hw
  obtain ⟨piece, hpiece, hmem⟩ := List.mem_flatMap.1 hw
  exact keepsTo_iff.1 (hpieces piece hpiece) w hmem

/-- A sentence of words of a vocabulary keeps to it. -/
theorem keepsTo_sentenceOf {vocabulary words : List String} (hne : words ≠ [])
    (hwords : ∀ w ∈ words, w ∈ vocabulary) (hplain : ∀ w ∈ vocabulary, IsWord w.toList) :
    KeepsTo vocabulary (sentenceOf words) := by
  rw [keepsTo_iff, plainWords_sentenceOf hne fun w hw => hplain w (hwords w hw)]
  intro w hw
  obtain ⟨word, hword, rfl⟩ := List.mem_map.1 hw
  exact ⟨word, hwords word hword, rfl⟩

theorem IsSentence.keepsTo {vocabulary : List String} {text : String}
    (h : IsSentence vocabulary text) : KeepsTo vocabulary text := by
  obtain ⟨words, hwords, -, hplain⟩ := h.drawn
  rw [keepsTo_iff, hplain]
  intro w hw
  obtain ⟨word, hword, rfl⟩ := List.mem_map.1 hw
  exact ⟨word, hwords word hword, rfl⟩

theorem IsParagraph.keepsTo {vocabulary : List String} {text : String}
    (h : IsParagraph vocabulary text) : KeepsTo vocabulary text := by
  obtain ⟨parts, -, hparts, rfl⟩ := h
  exact KeepsTo.joined (by decide) fun part hpart => (hparts part hpart).keepsTo

/-- Three to eight plain words make a sentence. -/
theorem isSentence_sentenceOf {vocabulary words : List String}
    (hcount : 3 ≤ words.length ∧ words.length ≤ 8) (hwords : ∀ w ∈ words, w ∈ vocabulary)
    (hplain : ∀ w ∈ vocabulary, IsWord w.toList) : IsSentence vocabulary (sentenceOf words) := by
  have hne : words ≠ [] := List.ne_nil_of_length_pos (by omega)
  have hread := plainWords_sentenceOf hne fun w hw => hplain w (hwords w hw)
  refine ⟨⟨words, hwords, rfl, hread⟩, ?_, endsWithPeriod_sentenceOf words⟩
  rwa [← length_plainWords, hread, List.length_map]

/-! ## What is drawn -/

variable {σ : Type} [WordStream σ] [Lexicon σ] {vocabulary : Vocabulary} {words : Array String}

theorem yields_word_mem (hwords : vocabulary.words (Lexicon.loremWords σ) = words)
    (hne : words ≠ #[]) : Yields (word vocabulary : Draw σ String) (· ∈ words.toList) := by
  unfold word
  rw [hwords]
  exact (yields_pick_mem hne _).mono fun w hw => hw.val

/-- A sentence that is drawn is one of words of its vocabulary. -/
theorem yields_sentence_whole (hwords : vocabulary.words (Lexicon.loremWords σ) = words)
    (hne : words ≠ #[]) (hplain : ∀ w ∈ words.toList, IsWord w.toList) :
    Yields (sentence vocabulary : Draw σ String) (IsSentence words.toList) := by
  refine (yields_sentence (yields_word_mem hwords hne)).mono ?_
  rintro _ ⟨drawn, hcount, hdrawn, rfl⟩
  exact isSentence_sentenceOf hcount hdrawn hplain

/-- A paragraph that is drawn is one of words of its vocabulary. -/
theorem yields_paragraph_whole (hwords : vocabulary.words (Lexicon.loremWords σ) = words)
    (hne : words ≠ #[]) (hplain : ∀ w ∈ words.toList, IsWord w.toList) :
    Yields (paragraph vocabulary : Draw σ String) (IsParagraph words.toList) := by
  refine (yields_within (by decide)).bind fun count hcount => ?_
  refine ((yields_sentence_whole hwords hne hplain).times count).bind fun parts hparts =>
    yields_pure ⟨parts, ?_, hparts.2, rfl⟩
  rwa [hparts.1]

/-- What the pieces of a text are: words, whole sentences or whole paragraphs. -/
def IsPiece (limit : Nat) (vocabulary : List String) (piece : String) : Prop :=
  if honoured limit < wordsBelow then piece ∈ vocabulary
  else if honoured limit < sentencesBelow then IsSentence vocabulary piece
  else IsParagraph vocabulary piece

theorem yields_pieceOf (limit : Nat) (hwords : vocabulary.words (Lexicon.loremWords σ) = words)
    (hne : words ≠ #[]) (hplain : ∀ w ∈ words.toList, IsWord w.toList) :
    Yields (pieceOf limit vocabulary : Draw σ String) (IsPiece limit words.toList) := by
  unfold pieceOf IsPiece
  split
  · exact yields_word_mem hwords hne
  · split
    · exact yields_sentence_whole hwords hne hplain
    · exact yields_paragraph_whole hwords hne hplain

theorem isBlank_separatorOf (limit : Nat) : isBlank (separatorOf limit) = true := by
  unfold separatorOf
  split <;> decide

/-- Text is made of whole pieces, and uses no other words than they do. -/
theorem yields_text_pieces (limit : Nat)
    (hwords : vocabulary.words (Lexicon.loremWords σ) = words) (hne : words ≠ #[])
    (hplain : ∀ w ∈ words.toList, IsWord w.toList) :
    Yields (text limit vocabulary : Draw σ String) fun text =>
      KeepsTo words.toList text ∧ ∃ pieces, pieces ≠ [] ∧
        (∀ piece ∈ pieces, IsPiece limit words.toList piece) ∧ text = textOf limit pieces := by
  intro s result t hresult
  obtain ⟨pieces, hpieces, rfl⟩ := text_ok_iff.1 hresult
  obtain ⟨hnil, hall, -⟩ :=
    yields_fill (yields_pieceOf limit hwords hne hplain) s pieces t hpieces
  refine ⟨?_, pieces, hnil, hall, rfl⟩
  unfold IsPiece at hall
  unfold textOf
  by_cases hshort : honoured limit < wordsBelow
  · simp only [if_pos hshort] at hall
    rw [if_pos hshort]
    exact keepsTo_sentenceOf hnil hall hplain
  · rw [if_neg hshort]
    refine KeepsTo.joined (isBlank_separatorOf limit) fun piece hpiece => ?_
    have hkind := hall piece hpiece
    rw [if_neg hshort] at hkind
    split at hkind
    · exact hkind.keepsTo
    · exact hkind.keepsTo

/-- Text from a list of plain words passes the check of its words. -/
theorem yields_text_vocabulary (limit : Nat) (hne : words ≠ #[])
    (hplain : ∀ w ∈ words.toList, IsWord w.toList) :
    Yields (text limit (.custom words) : Draw σ String) fun text =>
      inVocabulary text words.toList = true := by
  have hwords : (Vocabulary.custom words).words (Lexicon.loremWords σ) = words := rfl
  exact (yields_text_pieces limit hwords hne hplain).mono fun _ htext =>
    keepsTo_iff_inVocabulary.1 htext.1

/--
Of a list of plain words, at least one, everything that is drawn uses words of the
list alone, so that it passes the check of words: a sentence of three to eight words
and a period, a paragraph of one to four such sentences, and text of any limit. Text
of a limit of 25 or more is whole sentences, and of a limit of 100 or more they stand
in whole paragraphs.
-/
theorem prose_keeps_to_vocabulary (hwords : vocabulary.words (Lexicon.loremWords σ) = words)
    (hne : words ≠ #[]) (hplain : ∀ w ∈ words.toList, IsWord w.toList) (limit : Nat)
    (s t : Source σ) (result : String) :
    (sentence vocabulary s = .ok (result, t) →
      IsSentence words.toList result ∧ KeepsTo words.toList result ∧
        inVocabulary result words.toList = true) ∧
    (paragraph vocabulary s = .ok (result, t) →
      IsParagraph words.toList result ∧ KeepsTo words.toList result ∧
        inVocabulary result words.toList = true) ∧
    (text limit vocabulary s = .ok (result, t) →
      KeepsTo words.toList result ∧ inVocabulary result words.toList = true ∧
      (wordsBelow ≤ max limit leastLimit → max limit leastLimit < sentencesBelow →
        ∃ parts, parts ≠ [] ∧ (∀ part ∈ parts, IsSentence words.toList part) ∧
          result = joined ' ' parts) ∧
      (sentencesBelow ≤ max limit leastLimit →
        ∃ parts, parts ≠ [] ∧ (∀ part ∈ parts, IsParagraph words.toList part) ∧
          result = joined '\n' parts)) := by
  refine ⟨fun hdrawn => ?_, fun hdrawn => ?_, fun hdrawn => ?_⟩
  · have hsentence := yields_sentence_whole hwords hne hplain s result t hdrawn
    exact ⟨hsentence, hsentence.keepsTo, keepsTo_iff_inVocabulary.1 hsentence.keepsTo⟩
  · have hparagraph := yields_paragraph_whole hwords hne hplain s result t hdrawn
    exact ⟨hparagraph, hparagraph.keepsTo, keepsTo_iff_inVocabulary.1 hparagraph.keepsTo⟩
  · obtain ⟨hkeeps, pieces, hnil, hall, rfl⟩ :=
      yields_text_pieces limit hwords hne hplain s result t hdrawn
    refine ⟨hkeeps, keepsTo_iff_inVocabulary.1 hkeeps, fun hlong hbelow => ?_, fun hlong => ?_⟩
    · have hwhole : ¬ honoured limit < wordsBelow := Nat.not_lt.2 hlong
      have hline : honoured limit < sentencesBelow := hbelow
      refine ⟨pieces, hnil, fun piece hpiece => ?_, ?_⟩
      · have hkind := hall piece hpiece
        rwa [IsPiece, if_neg hwhole, if_pos hline] at hkind
      · rw [textOf, if_neg hwhole, separatorOf, if_pos hline]
    · have hlines : ¬ honoured limit < sentencesBelow := Nat.not_lt.2 hlong
      have hwhole : ¬ honoured limit < wordsBelow := fun hlt =>
        hlines (Nat.lt_trans hlt (show wordsBelow < sentencesBelow by decide))
      refine ⟨pieces, hnil, fun piece hpiece => ?_, ?_⟩
      · have hkind := hall piece hpiece
        rwa [IsPiece, if_neg hwhole, if_neg hlines] at hkind
      · rw [textOf, if_neg hwhole, separatorOf, if_neg hlines]

/-- A source of zeros: the first word of the list, and the least number of words and sentences. -/
def zeros : Source Script where
  stream := { words := #[0] }
  limit := 64

/-- The words of the list are plain: one has a period inside, one letters that are not ASCII. -/
theorem isWord_dotted : ∀ w ∈ #["a.b", "été"].toList, IsWord w.toList := by
  decide

/-- Words with a period or an accent inside are kept whole. -/
theorem dotted_words_kept :
    (∃ t, sentence (.custom #["a.b", "été"]) zeros = .ok ("A.b a.b a.b.", t)) ∧
    IsSentence ["a.b", "été"] "A.b a.b a.b." ∧
    (∃ t, text 30 (.custom #["a.b", "été"]) zeros = .ok ("A.b a.b a.b. A.b a.b a.b.", t)) ∧
    ∃ parts, parts ≠ [] ∧ (∀ part ∈ parts, IsSentence ["a.b", "été"] part) ∧
      "A.b a.b a.b. A.b a.b a.b." = joined ' ' parts := by
  have hsentence : (sentence (.custom #["a.b", "été"]) zeros).toOption.any
      (fun drawn => drawn.1 = "A.b a.b a.b.") = true := by
    decide +kernel
  have htext : (text 30 (.custom #["a.b", "été"]) zeros).toOption.any
      (fun drawn => drawn.1 = "A.b a.b a.b. A.b a.b a.b.") = true := by
    decide +kernel
  have hwords : (Vocabulary.custom #["a.b", "été"]).words (Lexicon.loremWords Script) =
      #["a.b", "été"] := rfl
  obtain ⟨⟨one, t⟩, hone, heq⟩ := exists_ok_of_any hsentence
  obtain rfl : one = "A.b a.b a.b." := of_decide_eq_true heq
  obtain ⟨⟨two, u⟩, htwo, heq⟩ := exists_ok_of_any htext
  obtain rfl : two = "A.b a.b a.b. A.b a.b a.b." := of_decide_eq_true heq
  obtain ⟨hwhole, -, -⟩ :=
    prose_keeps_to_vocabulary hwords (by decide) isWord_dotted 30 zeros t "A.b a.b a.b."
  obtain ⟨-, -, hparts⟩ :=
    prose_keeps_to_vocabulary hwords (by decide) isWord_dotted 30 zeros u
      "A.b a.b a.b. A.b a.b a.b."
  exact ⟨⟨t, hone⟩, (hwhole hone).1, ⟨u, htwo⟩, (hparts htwo).2.2.1 (by decide) (by decide)⟩

end LinkedDocs.Prose
