import LinkedDocs.Random.Draw
import LinkedDocs.Vocabulary
import LinkedDocs.Vocabulary.Company
import LinkedDocs.Vocabulary.Lorem

/-!
# Lexicons

The word data behind free text and company names. A generator works with any
word data; which words it has decides only what its texts hold.

* `Lexicon.ofLists`: the lexicon of the lists of words that come with the library.
-/

namespace LinkedDocs

open LinkedDocs.Random LinkedDocs.Random.Draw

/-- The word data of a generator that draws from a stream. -/
class Lexicon (σ : Type) where
  /-- The words of lorem prose, repeats included. -/
  loremWords : Array String
  /-- A company name. -/
  companyName : Draw σ String

namespace Lexicon

variable {σ : Type} [WordStream σ]

/--
A company name: one last name or two joined by `and`, and an ending. Both last
names and the ending are drawn whichever form was chosen.
-/
def joinedNames : Draw σ String := do
  let joined ← pick #[false, true] false
  let first ← pick Vocabulary.lastNames ""
  let second ← pick Vocabulary.lastNames ""
  let ending ← pick Vocabulary.companyEndings ""
  return if joined then first ++ " and " ++ second ++ " " ++ ending else first ++ " " ++ ending

instance ofLists : Lexicon σ where
  loremWords := Vocabulary.loremWords
  companyName := joinedNames

end Lexicon

end LinkedDocs
