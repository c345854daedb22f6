import LinkedDocs.Evaluation.Rules
import LinkedDocs.Proofs.Rounds
import LinkedDocs.Proofs.Utf8

/-!
# The words of a sentence

A sentence of plain words is read back as these words: it changes no more of them
than the case of a letter and a period at the end. Texts with blanks between them
have the words of each, one after the other.

* `plainWords_sentenceOf`, `plainWords_joined`: the words of a text.
* `inVocabulary_iff`: the check of words, by the words of the text.
* `yields_sentence`: a sentence that is drawn.
-/

namespace LinkedDocs.Evaluation

open Prose Text

/-! ## Words -/

/-- A word of free text: one run of characters without blanks, and no period at its end. -/
structure IsWord (w : List Char) : Prop where
  ne_nil : w ≠ []
  no_blank : ∀ c ∈ w, isBlank c = false
  no_period : w.getLast? ≠ some '.'

instance (w : List Char) : Decidable (IsWord w) :=
  decidable_of_iff (w ≠ [] ∧ w.all (fun c => !isBlank c) = true ∧ w.getLast? ≠ some '.') <| by
    simp only [List.all_eq_true, Bool.not_eq_true']
    exact ⟨fun ⟨a, b, c⟩ => ⟨a, b, c⟩, fun ⟨a, b, c⟩ => ⟨a, b, c⟩⟩

/-- A blank separates the words on either side. -/
theorem wordsOf_append_blank {blank : Char} (h : isBlank blank = true) (text text' : List Char) :
    wordsOf (text ++ blank :: text') = wordsOf text ++ wordsOf text' := by
  rw [wordsOf, List.splitOnP_append_cons _ _ h, List.filter_append, wordsOf, wordsOf]

/-- A text without blanks is one word. -/
theorem wordsOf_of_no_blank {w : List Char} (hne : w ≠ []) (h : ∀ c ∈ w, isBlank c = false) :
    wordsOf w = [w] := by
  rw [wordsOf, List.splitOnP_eq_singleton h]
  simp [hne]

/-- A period behind a word is no part of it. -/
theorem bareWord_append_period (w : List Char) : bareWord (w ++ ['.']) = bareWord w := by
  simp [bareWord]

/-- A word without a period at its end is bare. -/
theorem bareWord_eq_self {w : List Char} (h : w.getLast? ≠ some '.') : bareWord w = w := by
  rw [bareWord]
  rw [← List.head?_reverse] at h
  cases hw : w.reverse with
  | nil => rw [List.reverse_eq_nil_iff.1 hw]; rfl
  | cons c rest =>
    have hc : c ≠ '.' := by
      rintro rfl
      exact h (by rw [hw]; rfl)
    rw [List.dropWhile_cons_of_neg (by simpa using hc), ← hw, List.reverse_reverse]

/-- The lower case ASCII letters and their capitals. -/
theorem toUpper_lower : ∀ n < 123, 97 ≤ n →
    isBlank (Char.ofNat n).toUpper = false ∧ (Char.ofNat n).toUpper ≠ '.' ∧
      (Char.ofNat n).toUpper ≠ '\'' ∧ (Char.ofNat n).toUpper.toLower = (Char.ofNat n).toLower := by
  decide

/-- Only small letters have another capital. -/
theorem toUpper_eq_self {c : Char} (h : ¬ (97 ≤ c.toNat ∧ c.toNat < 123)) : c.toUpper = c := by
  refine dif_neg fun hlower => h ?_
  have hlow : 97 ≤ c.val.toNat := UInt32.le_iff_toNat_le.1 hlower.1
  have hhigh : c.val.toNat ≤ 122 := UInt32.le_iff_toNat_le.1 hlower.2
  exact ⟨hlow, Nat.lt_succ_of_le hhigh⟩

/-- A character in upper case is itself or a capital, and has the same lower case. -/
theorem toUpper_cases (c : Char) :
    (c.toUpper = c ∨ isBlank c.toUpper = false ∧ c.toUpper ≠ '.' ∧ c.toUpper ≠ '\'') ∧
      c.toUpper.toLower = c.toLower := by
  by_cases h : 97 ≤ c.toNat ∧ c.toNat < 123
  · have hletter := toUpper_lower c.toNat h.2 h.1
    rw [Char.ofNat_toNat] at hletter
    exact ⟨.inr ⟨hletter.1, hletter.2.1, hletter.2.2.1⟩, hletter.2.2.2⟩
  · rw [toUpper_eq_self h]
    exact ⟨.inl rfl, rfl⟩

/-- Capitalizing a word leaves a word with the same letters. -/
theorem IsWord.capitalize {w : List Char} (h : IsWord w) : IsWord (capitalizeChars w) := by
  rcases h with ⟨hne, hblank, hperiod⟩
  cases w with
  | nil => exact absurd rfl hne
  | cons c w =>
    rcases List.forall_mem_cons.1 hblank with ⟨hc, hw⟩
    refine ⟨List.cons_ne_nil _ _, List.forall_mem_cons.2 ⟨?_, hw⟩, ?_⟩
    · rcases (toUpper_cases c).1 with heq | hcapital
      · rwa [heq]
      · exact hcapital.1
    · cases w with
      | nil =>
        rcases (toUpper_cases c).1 with heq | hcapital
        · rwa [capitalizeChars, heq]
        · exact fun hlast => hcapital.2.1 (Option.some.inj hlast)
      | cons d w => simpa [capitalizeChars] using hperiod

/-- A capital in front is not seen when case is ignored. -/
theorem toLower_capitalizeChars (w : List Char) :
    (capitalizeChars w).map Char.toLower = w.map Char.toLower := by
  cases w with
  | nil => rfl
  | cons c w => rw [capitalizeChars, List.map_cons, (toUpper_cases c).2, List.map_cons]

/-! ## The words of a text -/

/-- The words of a text in lower case, without the periods behind them. -/
def plainWords (text : List Char) : List (List Char) :=
  (wordsOf text).map fun w => (bareWord w).map Char.toLower

theorem length_plainWords (text : List Char) : (plainWords text).length = (wordsOf text).length :=
  List.length_map _

/-- The check of words passes if every word of the text is one of the vocabulary. -/
theorem inVocabulary_iff {text : String} {vocabulary : List String} :
    inVocabulary text vocabulary = true ↔
      ∀ w ∈ plainWords text.toList, ∃ known ∈ vocabulary, known.toList.map Char.toLower = w := by
  rw [inVocabulary, List.all_eq_true, plainWords, List.forall_mem_map]
  simp only [List.any_eq_true, sameLetters, decide_eq_true_eq]

/-- Words are plain on either side of a blank. -/
theorem plainWords_append_blank {blank : Char} (h : isBlank blank = true)
    (text text' : List Char) :
    plainWords (text ++ blank :: text') = plainWords text ++ plainWords text' := by
  rw [plainWords, wordsOf_append_blank h, List.map_append]
  rfl

/-- Texts with a blank between them. -/
theorem plainWords_intercalate {blank : Char} (h : isBlank blank = true)
    (texts : List (List Char)) :
    plainWords ([blank].intercalate texts) = texts.flatMap plainWords := by
  induction texts with
  | nil => rfl
  | cons text texts ih =>
    cases texts with
    | nil => rw [List.intercalate_singleton, List.flatMap_singleton]
    | cons next texts =>
      rw [List.intercalate_cons_cons, List.append_assoc, List.singleton_append,
        plainWords_append_blank h, ih, List.flatMap_cons, List.flatMap_cons, List.flatMap_cons]

/-- A word, or one with a period behind it. -/
theorem plainWords_word {w : List Char} (h : IsWord w) :
    plainWords w = [w.map Char.toLower] ∧ plainWords (w ++ ['.']) = [w.map Char.toLower] := by
  have hblank : ∀ c ∈ w ++ ['.'], isBlank c = false := by
    intro c hc
    rcases List.mem_append.1 hc with hc | hc
    · exact h.no_blank c hc
    · rw [List.mem_singleton.1 hc]
      decide
  constructor
  · rw [plainWords, wordsOf_of_no_blank h.ne_nil h.no_blank, List.map_singleton,
      bareWord_eq_self h.no_period]
  · rw [plainWords, wordsOf_of_no_blank (by simp) hblank, List.map_singleton,
      bareWord_append_period, bareWord_eq_self h.no_period]

/-- Words with single spaces between them and a period behind the last. -/
theorem plainWords_words {w : List Char} {words : List (List Char)}
    (h : ∀ v ∈ w :: words, IsWord v) :
    plainWords ([' '].intercalate (w :: words) ++ ['.']) =
      (w :: words).map (List.map Char.toLower) := by
  induction words generalizing w with
  | nil =>
    rw [List.intercalate_singleton]
    exact (plainWords_word (h w List.mem_cons_self)).2
  | cons v words ih =>
    obtain ⟨hw, hwords⟩ := List.forall_mem_cons.1 h
    rw [List.intercalate_cons_cons, List.append_assoc, List.append_assoc, List.singleton_append,
      plainWords_append_blank (by decide), ih hwords, (plainWords_word hw).1]
    rfl

/-! ## Sentences -/

/-- The first word of a sentence is capitalized. -/
theorem toList_sentenceOf {word : String} {words : List String} (h : word.toList ≠ []) :
    (sentenceOf (word :: words)).toList =
      [' '].intercalate (capitalizeChars word.toList :: words.map String.toList) ++ ['.'] := by
  have hcapital : ∀ texts : List (List Char),
      capitalizeChars ([' '].intercalate (word.toList :: texts)) =
        [' '].intercalate (capitalizeChars word.toList :: texts) := by
    intro texts
    rcases List.exists_cons_of_ne_nil h with ⟨c, chars, hchars⟩
    rw [hchars]
    cases texts with
    | nil => simp [capitalizeChars]
    | cons text texts => simp [capitalizeChars, List.intercalate_cons_cons]
  rw [sentenceOf, capitalize, String.toList_append, String.toList_ofList,
    String.toList_intercalate, List.map_cons]
  exact congrArg (· ++ ['.']) (hcapital _)

/-- A sentence of plain words is read back as these words. -/
theorem plainWords_sentenceOf {words : List String} (hne : words ≠ [])
    (h : ∀ w ∈ words, IsWord w.toList) :
    plainWords (sentenceOf words).toList = words.map fun w => w.toList.map Char.toLower := by
  -- The first word is capitalized, which does not change what it is in lower case.
  obtain ⟨word, words, rfl⟩ := List.exists_cons_of_ne_nil hne
  obtain ⟨hfirst, hrest⟩ := List.forall_mem_cons.1 h
  rw [toList_sentenceOf hfirst.ne_nil, plainWords_words, List.map_cons, toLower_capitalizeChars,
    List.map_map, List.map_cons]
  · rfl
  · refine List.forall_mem_cons.2 ⟨hfirst.capitalize, fun v hv => ?_⟩
    obtain ⟨u, hu, rfl⟩ := List.mem_map.1 hv
    exact hrest u hu

/-- Texts that are joined by a blank. -/
theorem plainWords_joined {blank : Char} (h : isBlank blank = true) (pieces : List String) :
    plainWords (joined blank pieces).toList =
      pieces.flatMap fun piece => plainWords piece.toList := by
  rw [joined, String.toList_intercalate, String.toList_singleton, plainWords_intercalate h,
    List.flatMap_map]

end LinkedDocs.Evaluation

namespace LinkedDocs.Prose

open LinkedDocs.Random LinkedDocs.Random.Draw

variable {σ : Type} [WordStream σ] [Lexicon σ]

/-- A sentence is three to eight words that are drawn. -/
theorem yields_sentence {vocabulary : Vocabulary} {P : String → Prop}
    (h : Yields (word vocabulary : Draw σ String) P) :
    Yields (sentence vocabulary : Draw σ String) fun text =>
      ∃ words, (3 ≤ words.length ∧ words.length ≤ 8) ∧ (∀ w ∈ words, P w) ∧
        text = sentenceOf words := by
  refine (yields_within (by decide)).bind fun count hcount =>
    (h.times count).bind fun words hwords => yields_pure ⟨words, ?_, hwords.2, rfl⟩
  rwa [hwords.1]

end LinkedDocs.Prose
