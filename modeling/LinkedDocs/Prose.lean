import LinkedDocs.Lexicon

/-!
# Free text

Words, sentences, paragraphs, and text that stays below a length limit.

Text of a limit below 25 is one sentence of words; below 100 it is whole
sentences; above, whole paragraphs, one a line. Pieces are drawn until the next
one would reach the limit, and that piece is dropped. If even the first piece
reaches it, the round is lost and a new one begins.

* `restOfRound`, `round`, `fill`: one round, and rounds until one keeps a piece.
* `fill` ends on every source: a lost round takes a word, or it would be lost
  for ever, which is the fault `endless`.

Lengths are counted in UTF-8 bytes.
-/

namespace LinkedDocs.Prose

open LinkedDocs.Random LinkedDocs.Random.Draw

variable {σ : Type} [WordStream σ]

/-- The text with an ASCII letter at its front in upper case. -/
def capitalizeChars : List Char → List Char
  | [] => []
  | c :: rest => c.toUpper :: rest

/-- The text with an ASCII letter at its front in upper case. -/
def capitalize (text : String) : String := String.ofList (capitalizeChars text.toList)

/-- A word of the vocabulary. -/
def word [Lexicon σ] (vocabulary : Vocabulary) : Draw σ String :=
  pick (vocabulary.words (Lexicon.loremWords σ)) Vocabulary.fallback

/-- The words as a sentence: capitalized, with single spaces and a final period. -/
def sentenceOf (words : List String) : String := capitalize (" ".intercalate words) ++ "."

/-- A sentence of 3 to 8 words. -/
def sentence [Lexicon σ] (vocabulary : Vocabulary) : Draw σ String := do
  let count ← within 3 8
  let words ← times (word vocabulary) count
  return sentenceOf words

/-- The greatest length of a list of texts: 24 bytes a text, less than 2^63 in all. -/
def mostTexts : Nat := Int64.maxValue.toNatClampNeg / 24

/-- A number of sentences; no word is taken if there are too many for a list. -/
def sentences [Lexicon σ] (count : Nat) (vocabulary : Vocabulary) : Draw σ (List String) :=
  if mostTexts < count then stop .listTooLong else times (sentence vocabulary) count

/-- A paragraph of 1 to 4 sentences with single spaces between them. -/
def paragraph [Lexicon σ] (vocabulary : Vocabulary) : Draw σ String := do
  let count ← within 1 4
  let parts ← times (sentence vocabulary) count
  return " ".intercalate parts

/-! ## Filling up to a limit -/

/--
The pieces of a round, `kept` of joined length `size` so far (the last first):
the next one is kept if the joined length with it and a separator stays below
the limit; the first that does not is dropped and ends the round.
-/
def restOfRound (limit : Nat) (separator : Char) (piece : Draw σ String) (kept : List String)
    (size : Nat) : Draw σ (List String) := fun s =>
  match piece s with
  | .error fault => .error fault
  | .ok (next, t) =>
    let joined := size + separator.utf8Size + next.utf8ByteSize
    if joined < limit then restOfRound limit separator piece (next :: kept) joined t
    else .ok (kept.reverse, t)
termination_by limit - size
decreasing_by
  have := separator.utf8Size_pos
  omega

/-- The pieces that one round keeps; none if the first already reaches the limit. -/
def round (limit : Nat) (separator : Char) (piece : Draw σ String) : Draw σ (List String) := do
  let first ← piece
  if first.utf8ByteSize < limit then
    restOfRound limit separator piece [first] first.utf8ByteSize
  else
    return []

/-- The pieces of the first round that keeps any. -/
def fill (limit : Nat) (separator : Char) (piece : Draw σ String) : Draw σ (List String) := fun s =>
  match round limit separator piece s with
  | .error fault => .error fault
  | .ok ([], t) =>
    if t.remaining < s.remaining then fill limit separator piece t else .error .endless
  | .ok (kept, t) => .ok (kept, t)
termination_by s => s.remaining

/-! ## Text -/

/-- The least limit that is honoured. -/
def leastLimit : Nat := 5

/-- Below this limit text is one sentence of words. -/
def wordsBelow : Nat := 25

/-- Below this limit text is sentences; from it on, paragraphs. -/
def sentencesBelow : Nat := 100

/-- Text of fewer than `max limit 5` bytes. -/
def text [Lexicon σ] (limit : Nat) (vocabulary : Vocabulary) : Draw σ String := do
  let limit := max limit leastLimit
  if limit < wordsBelow then
    -- One byte is kept for the period.
    let words ← fill (limit - 1) ' ' (word vocabulary)
    return sentenceOf words
  else if limit < sentencesBelow then
    let parts ← fill limit ' ' (sentence vocabulary)
    return " ".intercalate parts
  else
    let parts ← fill limit '\n' (paragraph vocabulary)
    return "\n".intercalate parts

end LinkedDocs.Prose
