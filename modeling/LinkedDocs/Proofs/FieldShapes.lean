import LinkedDocs.Proofs.Documents
import LinkedDocs.Proofs.Runs

/-!
# The shapes of the columns of a main document

Whatever is drawn, each column of a main document has its form: a handle as the key
of the payload and a number with two places as its value, three texts below their
limits, and an array literal that splits into the sentences that were drawn. An
evaluation looks at less of this: it takes any key, and text of any form.

* `Sample.yields_handle`, `Sample.yields_decimal`: the payload.
* `Generator.mainRecord_eq`: the sentences between the columns in front and behind.
* `Generator.main_columns_shaped`: a whole document.
-/

namespace LinkedDocs

open LinkedDocs.Random LinkedDocs.Random.Draw Calendar Evaluation Text

namespace Sample

variable {σ : Type} [WordStream σ]

/-! ## Handles and decimals -/

/-- Two to four capitals, one to five digits, a hyphen and the ending. -/
def IsHandle (ending handle : String) : Prop :=
  ∃ letters digits : List Char, handle.toList = letters ++ digits ++ '-' :: ending.toList ∧
    (2 ≤ letters.length ∧ letters.length ≤ 4 ∧ ∀ c ∈ letters, c.isUpper = true) ∧
    (1 ≤ digits.length ∧ digits.length ≤ 5 ∧ ∀ c ∈ digits, c.isDigit = true)

/-- The capitals are the characters from `A` to `Z`. -/
theorem isUpper_iff_toNat {c : Char} :
    c.isUpper = true ↔ 'A'.toNat ≤ c.toNat ∧ c.toNat ≤ 'Z'.toNat :=
  decide_eq_true_iff.trans (and_congr UInt32.le_iff_toNat_le UInt32.le_iff_toNat_le)

/-- A character is drawn between two ASCII characters. -/
theorem yields_character {low high : Char} (hascii : high.toNat < 128) :
    Yields (character low high : Draw σ Char) fun c =>
      low.toNat ≤ c.toNat ∧ c.toNat ≤ high.toNat := by
  have hrange : high.toNat - low.toNat + 1 < UInt32.size :=
    Nat.lt_of_le_of_lt (Nat.succ_le_succ (Nat.sub_le _ _)) (Nat.lt_trans (Nat.succ_lt_succ hascii)
      (by decide))
  refine (yields_within hrange).bind fun code hcode => yields_pure ?_
  -- Every code below 128 is that of a character.
  have hvalid : code.isValidChar := .inl (by omega)
  rw [Char.ofNat, dif_pos hvalid]
  exact hcode

/-- A handle that is drawn has the form of one. -/
theorem yields_handle (ending : String) :
    Yields (handle ending : Draw σ String) (IsHandle ending) := by
  have hletter : Yields (character 'A' 'Z' : Draw σ Char) fun c => c.isUpper = true :=
    (yields_character (by decide)).mono fun c hc => isUpper_iff_toNat.2 hc
  have hdigit : Yields (character '0' '9' : Draw σ Char) fun c => c.isDigit = true :=
    (yields_character (by decide)).mono fun c hc => Char.isDigit_iff_toNat.2 hc
  refine (yields_within (by decide)).bind fun letterCount hletters =>
    (yields_within (by decide)).bind fun digitCount hdigits =>
    (hletter.times letterCount).bind fun letters hupper =>
    (hdigit.times digitCount).bind fun digits hnumber =>
    yields_pure ⟨letters, digits, ?_, ?_, ?_⟩
  · rw [String.toList_append, String.toList_append, String.toList_ofList, List.append_assoc]
    rfl
  · rw [hupper.1]
    exact ⟨hletters.1, hletters.2, hupper.2⟩
  · rw [hnumber.1]
    exact ⟨hdigits.1, hdigits.2, hnumber.2⟩

/-- A decimal of four digits that is drawn lies between its bounds. -/
theorem yields_decimal {low high : Nat} (hlow : 1000 ≤ low) (hhigh : high < 10000) :
    Yields (decimal low high : Draw σ String) (IsHundredths low high) := by
  have hrange : high - low + 1 < UInt64.size :=
    Nat.lt_of_le_of_lt (show _ ≤ 10000 by omega) (by decide)
  refine (yields_within64 hrange).bind fun n hn => yields_pure ?_
  obtain ⟨a, b, c, d, hchars, hdigits, hvalue⟩ :=
    hundredths_digits (Nat.le_trans hlow hn.1) (Nat.lt_of_le_of_lt hn.2 hhigh)
  refine ⟨a, b, c, d, hchars, hdigits, ?_⟩
  rw [hvalue]
  exact hn

end Sample

namespace Generator

variable {σ : Type} [WordStream σ] [Lexicon σ]

/-! ## Sentences of plain words -/

/-- A word that no mark of a sentence or of an array literal occurs in. -/
def IsPlain (w : List Char) : Prop :=
  w ≠ [] ∧ ∀ c ∈ w, isBlank c = false ∧ c ≠ '\'' ∧ c ≠ '.'

theorem IsPlain.isWord {w : List Char} (h : IsPlain w) : IsWord w where
  ne_nil := h.1
  no_blank c hc := (h.2 c hc).1
  no_period hlast := (h.2 '.' (List.mem_of_getLast? hlast)).2.2 rfl

/-- A plain word cannot end an item of an array literal. -/
theorem IsPlain.no_quote {w : List Char} (h : IsPlain w) : '\'' ∉ w :=
  fun hquote => (h.2 '\'' hquote).2.1 rfl

/-- The sentences of plain words have three to eight words each. -/
theorem yields_sentences_words (hplain : ∀ w ∈ Lexicon.loremWords σ, IsPlain w.toList)
    (count : Nat) :
    Yields (Prose.sentences count .lorem : Draw σ (List String)) fun items =>
      ∀ item ∈ items,
        3 ≤ (wordsOf item.toList).length ∧ (wordsOf item.toList).length ≤ 8 := by
  -- Without lorem words the fallback is drawn, which is plain as well.
  have hword : Yields (Prose.word .lorem : Draw σ String) fun w => IsWord w.toList := by
    refine (yields_pick _ _).mono fun w hw => ?_
    rcases hw with hw | rfl
    · exact (hplain w hw).isWord
    · decide
  refine yields_ite (fun _ => yields_stop) fun _ => Yields.mono (Yields.times ?_ count)
    fun items hitems => hitems.2
  refine (Prose.yields_sentence hword).mono ?_
  rintro _ ⟨words, hcount, hwords, rfl⟩
  have hsentence := Prose.isSentence_sentenceOf hcount (fun w hw => hw) hwords
  exact hsentence.word_count

/-! ## Whole documents -/

/-- What is drawn of a main document in front of the sentences of its array. -/
structure Front where
  date : DateTime
  roll : Nat
  nested : Nested
  nonSearchable : String
  text : String

/-- Draws what stands in front of the sentences. -/
def front (reference : DateTime) : Draw σ Front := do
  let date ← Sample.dateTimeBetween reference.decadeStart reference
  let roll ← within 1 deletedOneIn
  let nested ← nested
  let nonSearchable ← Prose.text MainRecord.nonSearchableLimit .lorem
  let text ← Prose.text MainRecord.textLimit .lorem
  return { date, roll, nested, nonSearchable, text }

/-- A main document is what stands in front, the sentences, and one text behind them. -/
theorem mainRecord_eq (reference : DateTime) (index : Nat) :
    (mainRecord reference index : Draw σ MainRecord) = (do
      let f ← front reference
      let items ← Prose.sentences MainRecord.textArrayItems .lorem
      let ignoreMe ← Prose.text MainRecord.ignoreMeLimit (.custom Vocabulary.mainMarkers)
      return {
        id := DocId.main index
        date := f.date.toRow
        deleted := f.roll = deletedOneIn
        nested := f.nested
        nonSearchable := f.nonSearchable
        text := f.text
        textArray := arrayLiteral items
        ignoreMe }) := by
  unfold mainRecord front
  simp only [bind_assoc, pure_bind]

/-- Text that is not empty, ends with a period and is shorter than the limit in bytes. -/
def IsTextBelow (limit : Nat) (text : String) : Prop :=
  text ≠ "" ∧ text.toList.getLast? = some '.' ∧ text.utf8ByteSize < limit

/-- Text is drawn below its limit, if the limit is not raised. -/
theorem yields_text_below {limit : Nat} (h : Prose.leastLimit ≤ limit) (vocabulary : Vocabulary) :
    Yields (Prose.text limit vocabulary : Draw σ String) (IsTextBelow limit) := by
  refine (Prose.yields_text_fits limit vocabulary).mono fun text htext => ?_
  have hlt := htext.1
  rw [Prose.honoured, Nat.max_eq_left h] at hlt
  exact ⟨htext.2.ne_empty, htext.2, hlt⟩

/-- What stands in front of the sentences has the form of its columns. -/
theorem yields_front (reference : DateTime) :
    Yields (front reference : Draw σ Front) fun f =>
      Sample.IsHandle "KEY" f.nested.key ∧ IsHundredths 1000 9900 f.nested.value ∧
        IsTextBelow 100 f.nonSearchable ∧ IsTextBelow 50 f.text := by
  have hnested : Yields (nested : Draw σ Nested) fun n =>
      Sample.IsHandle "KEY" n.key ∧ IsHundredths 1000 9900 n.value := by
    refine (Sample.yields_handle keyEnding).bind fun key hkey => ?_
    refine (Sample.yields_decimal (by decide) (by decide)).bind fun value hvalue => ?_
    refine (yields_true _).bind fun name _ => ?_
    exact yields_pure ⟨hkey, hvalue⟩
  have hlong : Yields (Prose.text MainRecord.nonSearchableLimit .lorem : Draw σ String)
      (IsTextBelow 100) := yields_text_below (by decide) .lorem
  have hshort : Yields (Prose.text MainRecord.textLimit .lorem : Draw σ String)
      (IsTextBelow 50) := yields_text_below (by decide) .lorem
  -- The date and the roll may be any.
  refine (yields_true _).bind fun date _ => ?_
  refine (yields_true _).bind fun roll _ => ?_
  refine hnested.bind fun payload hpayload => ?_
  obtain ⟨hkey, hvalue⟩ := hpayload
  refine hlong.bind fun nonSearchable hnonSearchable => ?_
  refine hshort.bind fun text htext => ?_
  exact yields_pure ⟨hkey, hvalue, hnonSearchable, htext⟩

/--
Where the lorem words are plain, every main document that is drawn has a handle with
the ending `KEY` and a value from 10.00 to 99.00 in its payload, three texts below 100,
50 and 50 bytes, and as its array the literal of the three sentences that were drawn
behind the columns in front: between the quotes it splits into these sentences again,
and each has three to eight words.
-/
theorem main_columns_shaped (hplain : ∀ w ∈ Lexicon.loremWords σ, IsPlain w.toList)
    {reference : DateTime} {index : Nat} {s t : Source σ} {r : MainRecord}
    (h : mainRecord reference index s = .ok (r, t)) :
    Sample.IsHandle "KEY" r.nested.key ∧ IsHundredths 1000 9900 r.nested.value ∧
    IsTextBelow 100 r.nonSearchable ∧ IsTextBelow 50 r.text ∧ IsTextBelow 50 r.ignoreMe ∧
    ∃ f u v first second third,
      front reference s = .ok (f, u) ∧
      Prose.sentences 3 .lorem u = .ok ([first, second, third], v) ∧
      r.textArray = "\x7b'" ++ first ++ "','" ++ second ++ "','" ++ third ++ "'\x7d" ∧
      literalItems? r.textArray.toList = some [first.toList, second.toList, third.toList] ∧
      ∀ item ∈ [first, second, third],
        3 ≤ (wordsOf item.toList).length ∧ (wordsOf item.toList).length ≤ 8 := by
  rw [mainRecord_eq] at h
  obtain ⟨f, u, hfront, h⟩ := Draw.bind_ok_iff.1 h
  obtain ⟨items, v, hitems, h⟩ := Draw.bind_ok_iff.1 h
  obtain ⟨ignoreMe, t', hignoreMe, hpure⟩ := Draw.bind_ok_iff.1 h
  obtain ⟨rfl, -⟩ := Draw.pure_ok_iff.1 hpure
  obtain ⟨hkey, hvalue, hlong, htext⟩ := yields_front reference s f u hfront
  have hbelow : IsTextBelow 50 ignoreMe :=
    yields_text_below (by decide) (.custom Vocabulary.mainMarkers) v ignoreMe t' hignoreMe
  -- There are three sentences, and none of them holds a quote.
  obtain ⟨hcount, hquotes⟩ :=
    yields_sentences (fun w hw => (hplain w hw).no_quote) _ u items v hitems
  have hwords := yields_sentences_words hplain _ u items v hitems
  obtain ⟨first, second, third, rfl⟩ := List.length_eq_three.1 hcount
  refine ⟨hkey, hvalue, hlong, htext, hbelow, f, u, v, first, second, third, hfront, hitems,
    ?_, ?_, hwords⟩
  · show arrayLiteral [first, second, third] = _
    simp only [arrayLiteral, String.intercalate_cons_cons, String.intercalate_singleton,
      String.append_assoc]
  · exact literalItems?_arrayLiteral (List.cons_ne_nil _ _) hquotes

/-- The words that come with the library are plain. -/
theorem isPlain_loremWords : ∀ w ∈ Vocabulary.loremWords, IsPlain w.toList := by
  intro w hw
  obtain ⟨hne, hlower⟩ := isLower_loremWords w hw
  refine ⟨hne, fun c hc => ⟨isBlank_of_isLower (hlower c hc), ?_, ?_⟩⟩
  · rintro rfl
    exact absurd (hlower _ hc) (by decide)
  · rintro rfl
    exact absurd (hlower _ hc) (by decide)

/-- A document drawn with the words that come with the library. -/
theorem library_document_shaped : ∃ r t,
    mainRecord Generation.startOfDecade 0 Generation.sixWords = .ok (r, t) ∧
      r.nested.key = "AG00290-KEY" ∧ Sample.IsHandle "KEY" r.nested.key ∧
      IsTextBelow 100 r.nonSearchable ∧ ∃ first second third,
        r.textArray = "\x7b'" ++ first ++ "','" ++ second ++ "','" ++ third ++ "'\x7d" ∧
        literalItems? r.textArray.toList = some [first.toList, second.toList, third.toList] := by
  have hok : (mainRecord Generation.startOfDecade 0 Generation.sixWords).toOption.any
      (fun drawn => drawn.1.nested.key = "AG00290-KEY") = true := by
    decide +kernel
  obtain ⟨⟨r, t⟩, hdraw, hkey⟩ := exists_ok_of_any hok
  obtain ⟨hhandle, -, hlong, -, -, f, u, v, first, second, third, -, -, harray, hsplit, -⟩ :=
    main_columns_shaped isPlain_loremWords hdraw
  exact ⟨r, t, hdraw, of_decide_eq_true hkey, hhandle, hlong, first, second, third, harray,
    hsplit⟩

end Generator

end LinkedDocs
