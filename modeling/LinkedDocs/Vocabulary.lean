/-!
# Vocabularies

Where the words of free text come from: the lorem words, or a list of one's own.
The two `ignore_me` vocabularies are short lists of marker words.
-/

namespace LinkedDocs

/-- A source of words for free text. -/
inductive Vocabulary where
  | lorem
  | custom (words : Array String)
  deriving DecidableEq, Repr

namespace Vocabulary

/-- The marker words of a main document. -/
def mainMarkers : Array String := #["Alert", "DBonly", "noforward", "youshouldnotseeme"]

/-- The marker words of a related document. -/
def relatedMarkers : Array String := #["child", "doc", "dbonly", "noforward"]

/-- The words that may be drawn, with the given lorem words. -/
def words (loremWords : Array String) : Vocabulary → Array String
  | lorem => loremWords
  | custom words => words

/-- The word that stands in for an empty vocabulary. -/
def fallback : String := "lorem"

end Vocabulary

end LinkedDocs
