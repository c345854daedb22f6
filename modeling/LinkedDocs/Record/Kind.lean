/-!
# The two related datasets

A main document owns two batches of related documents: its children and its
inline documents. Each kind has its own file, its own id letters and its own
bounds on the size of a batch.
-/

namespace LinkedDocs

/-- The datasets that hang off a main document. -/
inductive RelatedKind where
  | child
  | inline
  deriving DecidableEq, Repr, Inhabited

/-- An inclusive range of batch sizes. -/
structure BatchBounds where
  least : Nat
  most : Nat
  deriving DecidableEq, Repr

/-- Size `n` lies within the bounds. -/
def BatchBounds.holds (b : BatchBounds) (n : Nat) : Bool :=
  b.least ≤ n && n ≤ b.most

namespace RelatedKind

/-- Both kinds, in the order in which they are generated and read. -/
def all : List RelatedKind := [child, inline]

/-- The word for the kind in messages and violation codes. -/
def label : RelatedKind → String
  | child => "child"
  | inline => "inline"

/-- The letters that open an id of this kind. -/
def idLetters : RelatedKind → String
  | child => "CHILD"
  | inline => "INLINE"

/-- The name of the dataset's file. -/
def fileName : RelatedKind → String
  | child => "child_doc.csv"
  | inline => "inline_doc.csv"

/-- A main document has 5 to 25 children and at most 3 inline documents. -/
def bounds : RelatedKind → BatchBounds
  | child => ⟨5, 25⟩
  | inline => ⟨0, 3⟩

/-- The kind with the given label. -/
def ofLabel? : String → Option RelatedKind
  | "child" => some child
  | "inline" => some inline
  | _ => none

end RelatedKind

/-- The name of the main dataset's file. -/
def mainFileName : String := "main_doc.csv"

end LinkedDocs
