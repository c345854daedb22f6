import LinkedDocs.Proofs.Numerals
import LinkedDocs.Record.Id
import Mathlib.Data.List.Basic

/-!
# Ids as a code

A main id determines its index and a related id its kind, parent and place, and
no main id is a related id. Other texts than the id are read as an index too:
those with more leading zeros than the id has.

* `mainIndex?_main_eq`: an index of 64 bits is read back from its id.
* `main_injective`, `related_inj`, `main_ne_related`: no two documents share an id.
* `OfDocument.unique`: an id belongs to one main document.
* `mainIndex?_eq_some_iff`: the texts that are read as an index.
* `ids_faithful`: ids as a code of documents.
-/

namespace LinkedDocs.DocId

open Text

/-- The characters of a main id. -/
theorem toList_main (n : Nat) : (main n).toList = 'I' :: 'D' :: zeroPadded indexWidth n := by
  simp [main, String.toList_append]

/-- An index is read back from its id, if it has 64 bits. -/
theorem mainIndex?_main_eq (n : Nat) :
    mainIndex? (main n) = if n < word64 then some n else none := by
  have hlen : ¬ (zeroPadded indexWidth n).length < indexWidth :=
    Nat.not_lt.2 (le_length_zeroPadded _ _)
  rw [mainIndex?, toList_main, mainIndexChars?, if_neg hlen]
  exact natBelow?_zeroPadded _ _ _

/-- The id of a main document is read as its index. -/
theorem mainIndex?_main {n : Nat} (h : n < word64) : mainIndex? (main n) = some n := by
  rw [mainIndex?_main_eq, if_pos h]

/-- Main documents of different numbers have different ids. -/
theorem main_injective : Function.Injective main := by
  intro m n h
  have hlist := congrArg String.toList h
  rw [toList_main, toList_main, List.cons.injEq, List.cons.injEq] at hlist
  exact zeroPadded_injective _ hlist.2.2

/-- The characters of a related id. -/
theorem toList_related (kind : RelatedKind) (parent sequence : Nat) :
    (related kind parent sequence).toList =
      kind.idLetters.toList ++ (zeroPadded indexWidth parent ++
        ':' :: zeroPadded sequenceWidth sequence) := by
  simp [related, String.toList_append]

/-- A numeral holds no colon, so the colons of an id separate its parts. -/
theorem colon_notMem_zeroPadded (width n : Nat) : ':' ∉ zeroPadded width n := by
  intro h
  have := isDigit_of_mem_zeroPadded h
  simp [Char.isDigit] at this

/-- The letters of a kind are told apart by the first of them. -/
theorem kind_eq_of_idLetters {kind kind' : RelatedKind} {rest rest' : List Char}
    (h : kind.idLetters.toList ++ rest = kind'.idLetters.toList ++ rest') : kind = kind' := by
  cases kind <;> cases kind' <;> simp_all [RelatedKind.idLetters]

/-- A related id determines its kind, its parent and its place in the batch. -/
theorem related_inj {kind kind' : RelatedKind} {parent parent' sequence sequence' : Nat} :
    related kind parent sequence = related kind' parent' sequence' ↔
      kind = kind' ∧ parent = parent' ∧ sequence = sequence' := by
  constructor
  · intro h
    have hlist := congrArg String.toList h
    rw [toList_related, toList_related] at hlist
    obtain rfl := kind_eq_of_idLetters hlist
    rw [List.append_cancel_left_eq,
      List.append_cons_inj_of_notMem (colon_notMem_zeroPadded _ _)
        (colon_notMem_zeroPadded _ _)] at hlist
    exact ⟨rfl, zeroPadded_injective _ hlist.1, zeroPadded_injective _ hlist.2.2⟩
  · rintro ⟨rfl, rfl, rfl⟩
    rfl

/-- No main id is a related id. -/
theorem main_ne_related (index : Nat) (kind : RelatedKind) (parent sequence : Nat) :
    main index ≠ related kind parent sequence := by
  intro h
  have hlist := congrArg String.toList h
  rw [toList_related] at hlist
  cases kind <;> simp [main, String.toList_append, RelatedKind.idLetters] at hlist

/-- The id of main document `index`, or of a document that belongs to it. -/
def OfDocument (index : Nat) (id : String) : Prop :=
  id = main index ∨ ∃ kind sequence, id = related kind index sequence

/-- No id belongs to two main documents. -/
theorem OfDocument.unique {index index' : Nat} {id : String} (h : OfDocument index id)
    (h' : OfDocument index' id) : index = index' := by
  rcases h with rfl | ⟨kind, sequence, rfl⟩ <;> rcases h' with heq | ⟨kind', sequence', heq⟩
  · exact main_injective heq
  · exact absurd heq (main_ne_related _ _ _ _)
  · exact absurd heq.symm (main_ne_related _ _ _ _)
  · exact (related_inj.1 heq).2.1

/-- What an id stands for: a main document, or a place in one of its batches. -/
inductive Referent where
  | main (index : Nat)
  | related (kind : RelatedKind) (parent sequence : Nat)
  deriving DecidableEq, Repr

/-- The id of what it stands for. -/
def Referent.id : Referent → String
  | main index => DocId.main index
  | related kind parent sequence => DocId.related kind parent sequence

/-- No two documents share an id, of the same dataset or of different ones. -/
theorem Referent.id_injective : Function.Injective Referent.id := by
  intro r r' h
  cases r with
  | main index =>
    cases r' with
    | main index' => exact congrArg Referent.main (main_injective h)
    | related kind' parent' sequence' => exact absurd h (main_ne_related _ _ _ _)
  | related kind parent sequence =>
    cases r' with
    | main index' => exact absurd h.symm (main_ne_related _ _ _ _)
    | related kind' parent' sequence' =>
      obtain ⟨rfl, rfl, rfl⟩ := related_inj.1 h
      rfl

/-! ## Texts that are read as an index -/

/-- The text is `ID` and these digits, six or more, and they are a number of 64 bits. -/
structure Spells (text : String) (digits : List Char) (index : Nat) : Prop where
  toList_eq : text.toList = 'I' :: 'D' :: digits
  le_length : indexWidth ≤ digits.length
  isDigit : ∀ c ∈ digits, c.isDigit = true
  value_eq : digitsValue digits = index
  index_lt : index < word64

/-- A text without the letters of an id is not read. -/
theorem mainIndexChars?_eq_none {text : List Char} (h : ∀ digits, text ≠ 'I' :: 'D' :: digits) :
    mainIndexChars? text = none := by
  unfold mainIndexChars?
  split
  · exact absurd rfl (h _)
  · rfl

/-- An index is read from `ID` and six or more digits with a value of 64 bits, and nothing else. -/
theorem mainIndex?_eq_some_iff {text : String} {index : Nat} :
    mainIndex? text = some index ↔ ∃ digits, Spells text digits index := by
  unfold mainIndex?
  constructor
  · intro h
    by_cases hprefix : ∃ digits, text.toList = 'I' :: 'D' :: digits
    · obtain ⟨digits, hdigits⟩ := hprefix
      rw [hdigits, mainIndexChars?] at h
      split at h
      · cases h
      · obtain ⟨-, hall, hvalue, hlt⟩ := natBelow?_eq_some_iff.1 h
        exact ⟨digits, hdigits, Nat.not_lt.1 ‹_›, hall, hvalue, hlt⟩
    · rw [mainIndexChars?_eq_none (not_exists.1 hprefix)] at h
      cases h
  · rintro ⟨digits, htext, hlength, hall, hvalue, hlt⟩
    have hne : digits ≠ [] :=
      List.ne_nil_of_length_pos (Nat.lt_of_lt_of_le (show 0 < indexWidth by decide) hlength)
    rw [htext, mainIndexChars?, if_neg (Nat.not_lt.2 hlength)]
    exact natBelow?_eq_some_iff.2 ⟨hne, hall, hvalue, hlt⟩

/-- A text that is read as an index is the id of that index unless it has zeros to spare. -/
theorem Spells.eq_main_iff {text : String} {digits : List Char} {index : Nat}
    (h : Spells text digits index) :
    text = main index ↔ digits.length = indexWidth ∨ digits.head? ≠ some '0' := by
  rw [← zeroPadded_digitsValue_iff (show 0 < indexWidth by decide) h.isDigit h.le_length,
    h.value_eq, ← String.toList_inj, h.toList_eq, toList_main, List.cons.injEq, List.cons.injEq]
  constructor
  · rintro ⟨-, -, heq⟩
    exact heq.symm
  · intro heq
    exact ⟨rfl, rfl, heq.symm⟩

/--
Ids are a code of documents: every index of 64 bits is read back from its id; no
two documents share an id, whichever datasets they belong to; and a text is read
as an index exactly if it is `ID` and six or more digits with that value, which is
the id of the index exactly if there are six digits or the first is not a zero.
-/
theorem ids_faithful :
    (∀ index < word64, mainIndex? (main index) = some index) ∧
    Function.Injective Referent.id ∧
    ∀ (text : String) (index : Nat),
      (mainIndex? text = some index ↔ ∃ digits, Spells text digits index) ∧
      ∀ digits, Spells text digits index →
        (text = main index ↔ digits.length = indexWidth ∨ digits.head? ≠ some '0') :=
  ⟨fun _ h => mainIndex?_main h, Referent.id_injective,
    fun _ _ => ⟨mainIndex?_eq_some_iff, fun _ h => h.eq_main_iff⟩⟩

/-- The greatest index of 64 bits is read back, and a seventh digit in front only as a spelling. -/
theorem spare_zero_read_as_index :
    mainIndex? (main 18446744073709551615) = some 18446744073709551615 ∧
    mainIndex? "ID0000042" = some 42 ∧ "ID0000042" ≠ main 42 := by
  have hspells : Spells "ID0000042" ['0', '0', '0', '0', '0', '4', '2'] 42 :=
    ⟨by decide, by decide, List.all_eq_true.1 rfl, by decide, by decide⟩
  obtain ⟨hread, -, htexts⟩ := ids_faithful
  refine ⟨hread _ (by decide), (htexts _ _).1.2 ⟨_, hspells⟩, fun heq => ?_⟩
  rcases ((htexts _ _).2 _ hspells).1 heq with hlength | hhead
  · exact absurd hlength (by decide)
  · exact hhead rfl

end LinkedDocs.DocId
