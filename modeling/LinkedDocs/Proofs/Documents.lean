import LinkedDocs.Generator
import LinkedDocs.Proofs.Dates
import LinkedDocs.Proofs.NestedValue
import LinkedDocs.Proofs.ReadBack
import LinkedDocs.Proofs.Sentences
import LinkedDocs.Proofs.SoundRows

/-!
# Generated documents are sound

Whatever is drawn, the row of a generated document passes every rule that looks
at the row alone. Of the word data only one thing is needed: no lorem word holds
a single quote, which would end an item of an array literal.

* `valueFault?_hundredths`, `literalItems?_arrayLiteral`: single columns.
* `yields_mainRecord`, `yields_relatedRecord`: whole documents.
-/

namespace LinkedDocs

open Text

namespace Evaluation

open Dataset

/-- A main document that passes as number `index`. -/
structure GoodMain (index : Nat) (r : MainRecord) : Prop where
  id_eq : r.id = DocId.main index
  sound : ∀ rowIndex, SoundMain (MainRow.ofRecord rowIndex r)

/-- A related document that passes at a place of the batch of a main document. -/
structure GoodRelated (kind : RelatedKind) (parent sequence : Nat) (r : RelatedRecord) :
    Prop where
  id_eq : r.id = DocId.related kind parent sequence
  parent_eq : r.parentId = DocId.main parent
  sound : ∀ rowIndex, SoundRelated (RelatedRow.ofRecord kind rowIndex r)

/-! ## The value of the payload -/

/-- A number below 100 is padded to two digits. -/
theorem exists_two_digits {n : Nat} (h : n < 100) :
    ∃ a b, zeroPadded 2 n = [a, b] ∧ a.isDigit = true ∧ b.isDigit = true := by
  have hlength : (zeroPadded 2 n).length = 2 := length_zeroPadded (by decide) h
  rcases List.length_eq_two.1 hlength with ⟨a, b, hab⟩
  have hdigit : ∀ c ∈ [a, b], c.isDigit = true := fun c hc =>
    isDigit_of_mem_zeroPadded (hab ▸ hc)
  exact ⟨a, b, hab, hdigit a (by simp), hdigit b (by simp)⟩

/-- A number of two digits needs no zeros in front. -/
theorem decimalChars_eq_zeroPadded {n : Nat} (h : 10 ≤ n) : decimalChars n = zeroPadded 2 n := by
  have hlength : ¬ (decimalChars n).length ≤ 1 := by
    rw [decimalChars, Nat.length_toDigits_le_iff (by decide) (by decide)]
    exact Nat.not_lt.2 h
  have hnone : 2 - (decimalChars n).length = 0 := by omega
  rw [zeroPadded, List.leftpad, hnone]
  rfl

/-- A number of hundredths has two digits on either side of the point. -/
theorem hundredths_digits {n : Nat} (hlow : 1000 ≤ n) (hhigh : n < 10000) :
    ∃ a b c d, (Sample.hundredths n).toList = [a, b, '.', c, d] ∧
      (∀ digit ∈ [a, b, c, d], digit.isDigit = true) ∧ digitsValue [a, b, c, d] = n := by
  rcases exists_two_digits (show n / 100 < 100 by omega) with ⟨a, b, hab, ha, hb⟩
  rcases exists_two_digits (show n % 100 < 100 by omega) with ⟨c, d, hcd, hc, hd⟩
  refine ⟨a, b, c, d, ?_, ?_, ?_⟩
  · rw [Sample.hundredths, decimal, decimalChars_eq_zeroPadded (by omega), hab, hcd]
    simp
  · simp [ha, hb, hc, hd]
  · have hfront : Nat.ofDigitChars 10 [a, b] 0 = n / 100 := by
      rw [← hab]
      exact digitsValue_zeroPadded 2 _
    have hback : Nat.ofDigitChars 10 [c, d] 0 = n % 100 := by
      rw [← hcd]
      exact digitsValue_zeroPadded 2 _
    show Nat.ofDigitChars 10 ([a, b] ++ [c, d]) 0 = n
    rw [Nat.ofDigitChars_append, hfront, Nat.ofDigitChars_eq_ofDigitChars_zero, hback]
    exact Nat.div_add_mod n 100

/-- A number of hundredths within the bounds passes the rule for values. -/
theorem valueFault?_hundredths {n : Nat} (hlow : 1000 ≤ n) (hhigh : n ≤ 9900) :
    valueFault? (Sample.hundredths n) = none := by
  rcases hundredths_digits hlow (by omega) with ⟨a, b, c, d, hchars, hdigits, hvalue⟩
  refine valueFault?_eq_none_iff.2 ⟨a, b, c, d, hchars, ?_, ?_, ?_⟩
  · exact hdigits
  · omega
  · omega

/-! ## The array literal -/

/-- Text without a single quote belongs to the item that it continues. -/
theorem splitItems_append {item : List Char} (h : '\'' ∉ item) (done rest : List Char) :
    splitItems done (item ++ rest) = splitItems (item.reverse ++ done) rest := by
  induction item generalizing done with
  | nil => rfl
  | cons c item ih =>
    rcases not_or.1 (mt List.mem_cons.2 h) with ⟨hc, hitem⟩
    rw [List.cons_append, splitItems, ih hitem, List.reverse_cons, List.append_assoc,
      List.singleton_append]
    exact fun _ heq => absurd heq.symm hc

/-- Items without a single quote are split where they were joined. -/
theorem splitItems_intercalate {items : List (List Char)} (hne : items ≠ [])
    (h : ∀ item ∈ items, '\'' ∉ item) :
    splitItems [] (['\'', ',', '\''].intercalate items) = items := by
  induction items with
  | nil => exact absurd rfl hne
  | cons item items ih =>
    rcases List.forall_mem_cons.1 h with ⟨hitem, hitems⟩
    cases items with
    | nil =>
      rw [List.intercalate_singleton, ← List.append_nil item, splitItems_append hitem, splitItems]
      simp
    | cons next items =>
      rw [List.intercalate_cons_cons, List.append_assoc, splitItems_append hitem]
      simp only [List.cons_append, List.nil_append]
      rw [splitItems, ih (List.cons_ne_nil _ _) hitems]
      simp

/-- Sentences without a single quote are the items of their array literal. -/
theorem literalItems?_arrayLiteral {items : List String} (hne : items ≠ [])
    (h : ∀ item ∈ items, '\'' ∉ item.toList) :
    literalItems? (Generator.arrayLiteral items).toList = some (items.map String.toList) := by
  have hchars : (Generator.arrayLiteral items).toList = '\x7b' :: '\'' ::
      (['\'', ',', '\''].intercalate (items.map String.toList) ++ ['\'', '\x7d']) := by
    rw [Generator.arrayLiteral, String.toList_append, String.toList_append,
      String.toList_intercalate]
    rfl
  have hsplit := @splitItems_intercalate (items.map String.toList) (by simpa using hne)
    (by simpa using h)
  rw [hchars, literalItems?]
  simp [hsplit]

/-! ## Draws -/

open LinkedDocs.Random LinkedDocs.Random.Draw

variable {σ : Type} [WordStream σ] [Lexicon σ]

/-- A character of no text and not of the separator is not in the joined text. -/
theorem notMem_intercalate {c : Char} {separator : List Char} {texts : List (List Char)}
    (hseparator : c ∉ separator) (h : ∀ text ∈ texts, c ∉ text) :
    c ∉ separator.intercalate texts := by
  induction texts with
  | nil => exact List.not_mem_nil
  | cons text texts ih =>
    rcases List.forall_mem_cons.1 h with ⟨htext, htexts⟩
    cases texts with
    | nil => rwa [List.intercalate_singleton]
    | cons next texts =>
      rw [List.intercalate_cons_cons, List.mem_append, List.mem_append, not_or, not_or]
      exact ⟨⟨htext, hseparator⟩, ih htexts⟩

/-- A sentence of words without a single quote holds none. -/
theorem quote_notMem_sentenceOf {words : List String} (h : ∀ w ∈ words, '\'' ∉ w.toList) :
    '\'' ∉ (Prose.sentenceOf words).toList := by
  have hjoined : '\'' ∉ (" ".intercalate words).toList := by
    rw [String.toList_intercalate]
    exact notMem_intercalate (by decide) (by simpa using h)
  rw [Prose.sentenceOf, Prose.capitalize, String.toList_append, String.toList_ofList,
    List.mem_append, not_or]
  -- Capitalizing changes the first character alone, and yields no quote.
  refine ⟨?_, by decide⟩
  cases hchars : (" ".intercalate words).toList with
  | nil => exact List.not_mem_nil
  | cons c chars =>
    rw [hchars, List.mem_cons, not_or] at hjoined
    rw [Prose.capitalizeChars, List.mem_cons, not_or]
    refine ⟨?_, hjoined.2⟩
    rcases (toUpper_cases c).1 with heq | hcapital
    · rw [heq]
      exact hjoined.1
    · exact hcapital.2.2.symm

/-- The sentences of `text_array` hold no single quote, as the lorem words hold none. -/
theorem yields_sentences (hquote : ∀ w ∈ Lexicon.loremWords σ, '\'' ∉ w.toList) (count : Nat) :
    Yields (Prose.sentences count .lorem : Draw σ (List String)) fun items =>
      items.length = count ∧ ∀ item ∈ items, '\'' ∉ item.toList := by
  have hword : Yields (Prose.word .lorem : Draw σ String) fun w => '\'' ∉ w.toList := by
    refine (yields_pick _ _).mono fun w hw => ?_
    rcases hw with hw | rfl
    · exact hquote w hw
    · decide
  refine yields_ite (fun _ => yields_stop) fun _ => Yields.times ?_ count
  refine (Prose.yields_sentence hword).mono ?_
  rintro _ ⟨words, -, hwords, rfl⟩
  exact quote_notMem_sentenceOf hwords

/-- The payload passes its rule, whatever its key and its name are. -/
theorem yields_nested :
    Yields (Generator.nested : Draw σ Nested) fun n => nestedFault? n.toJson = none := by
  have hvalue : Yields (Sample.decimal Generator.nestedValueBounds.1
      Generator.nestedValueBounds.2 : Draw σ String) fun value => valueFault? value = none :=
    (yields_within64 (by decide)).bind fun n hn => yields_pure (valueFault?_hundredths hn.1 hn.2)
  refine (yields_true _).bind fun key _ => hvalue.bind fun value hvalue =>
    (yields_true _).bind fun name _ => yields_pure ?_
  rw [Nested.nestedFault?_toJson, hvalue]
  rfl

/-! ## Whole documents -/

/-- The markers of main documents are words. -/
theorem isWord_mainMarkers : ∀ w ∈ Vocabulary.mainMarkers.toList, IsWord w.toList := by
  decide

/-- The markers of related documents are words. -/
theorem isWord_relatedMarkers : ∀ w ∈ Vocabulary.relatedMarkers.toList, IsWord w.toList := by
  decide

/-- The words that come with the library are of small letters. -/
theorem isLower_loremWords : ∀ w ∈ Vocabulary.loremWords,
    w.toList ≠ [] ∧ ∀ c ∈ w.toList, c.isLower = true := by
  have hall : (Vocabulary.loremWords.all fun w =>
      !w.toList.isEmpty && w.toList.all Char.isLower) = true := by
    decide +kernel
  intro w hw
  have hw' := Array.all_eq_true_iff_forall_mem.1 hall w hw
  rw [Bool.and_eq_true, Bool.not_eq_true', List.isEmpty_eq_false_iff, List.all_eq_true] at hw'
  exact hw'

/-- No lorem word holds a quote, so none ends an item of an array literal. -/
theorem quote_notMem_loremWords : ∀ w ∈ Vocabulary.loremWords, '\'' ∉ w.toList := by
  intro w hw hquote
  exact absurd ((isLower_loremWords w hw).2 '\'' hquote) (by decide)

/-- What is written in the `deleted` column is read as what was meant. -/
theorem deletedFlag?_deletedText (deleted : Bool) :
    deletedFlag? (MainRecord.deletedText deleted) = some deleted := by
  cases deleted <;> rfl

/-- A main document that is drawn passes as the number that it was drawn for. -/
theorem yields_mainRecord (hquote : ∀ w ∈ Lexicon.loremWords σ, '\'' ∉ w.toList)
    (reference : Calendar.DateTime) (index : Nat) :
    Yields (Generator.mainRecord reference index : Draw σ MainRecord) (GoodMain index) := by
  -- The length and the words of `ignore_me` are two facts about one draw.
  have hmarkers : Yields (Prose.text MainRecord.ignoreMeLimit
      (.custom Vocabulary.mainMarkers) : Draw σ String) fun text =>
        inVocabulary text Vocabulary.mainMarkers.toList = true :=
    Prose.yields_text_vocabulary _ (by decide) isWord_mainMarkers
  refine (yields_true _).bind fun date _ => (yields_true _).bind fun roll _ =>
    yields_nested.bind fun nested hnested =>
    (Prose.yields_text_lt (by decide) _).bind fun nonSearchable hnonSearchable =>
    (Prose.yields_text_lt (by decide) _).bind fun text htext =>
    (yields_sentences hquote _).bind fun items hitems =>
    ((Prose.yields_text_lt (by decide) _).and hmarkers).bind fun ignoreMe hignoreMe =>
    yields_pure ⟨rfl, fun rowIndex => ?_⟩
  have hne : items ≠ [] := List.ne_nil_of_length_pos (by rw [hitems.1]; decide)
  exact {
    date := Calendar.DateTime.read_toRow date
    deleted := ⟨_, deletedFlag?_deletedText _⟩
    nested := hnested
    nonSearchable_length := Nat.le_of_lt hnonSearchable
    text_length := Nat.le_of_lt htext
    ignoreMe_length := Nat.le_of_lt hignoreMe.1
    vocabulary := hignoreMe.2
    textArray := ⟨_, literalItems?_arrayLiteral hne hitems.2, by rw [List.length_map, hitems.1]⟩ }

/-- Whatever words there are, a main document has the id that it is drawn for. -/
theorem yields_mainRecord_id (reference : Calendar.DateTime) (index : Nat) :
    Yields (Generator.mainRecord reference index : Draw σ MainRecord) fun r =>
      r.id = DocId.main index :=
  (yields_true _).bind fun _ _ => (yields_true _).bind fun _ _ => (yields_true _).bind fun _ _ =>
    (yields_true _).bind fun _ _ => (yields_true _).bind fun _ _ =>
    (yields_true _).bind fun _ _ => (yields_true _).bind fun _ _ => yields_pure rfl

/-- A related document that is drawn passes at the place that it was drawn for. -/
theorem yields_relatedRecord (kind : RelatedKind) (parent sequence : Nat) :
    Yields (Generator.relatedRecord kind parent sequence : Draw σ RelatedRecord)
      (GoodRelated kind parent sequence) := by
  have hmarkers : Yields (Prose.text RelatedRecord.ignoreMeLimit
      (.custom Vocabulary.relatedMarkers) : Draw σ String) fun text =>
        inVocabulary text Vocabulary.relatedMarkers.toList = true :=
    Prose.yields_text_vocabulary _ (by decide) isWord_relatedMarkers
  refine (Prose.yields_text_lt (by decide) _).bind fun value hvalue =>
    ((Prose.yields_text_lt (by decide) _).and hmarkers).bind fun ignoreMe hignoreMe =>
    yields_pure ⟨rfl, rfl, fun rowIndex => ?_⟩
  exact {
    value_length := Nat.le_of_lt hvalue
    ignoreMe_length := Nat.le_of_lt hignoreMe.1
    vocabulary := hignoreMe.2 }

end Evaluation

end LinkedDocs
