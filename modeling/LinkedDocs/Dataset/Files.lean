import LinkedDocs.Path
import LinkedDocs.Record.Kind

/-!
# The files of a dataset

A dataset is three files in one directory: the main documents, their children
and their inline documents.
-/

namespace LinkedDocs.Dataset

/-- The paths of the three files. -/
structure Paths where
  main : String
  child : String
  inline : String
  deriving DecidableEq, Repr

namespace Paths

/-- The paths of the dataset in a directory. -/
def inDir (dir : String) : Paths where
  main := Path.join dir mainFileName
  child := Path.join dir RelatedKind.child.fileName
  inline := Path.join dir RelatedKind.inline.fileName

/-- The path of a related file. -/
def related (p : Paths) : RelatedKind → String
  | .child => p.child
  | .inline => p.inline

end Paths

/-- The number of bytes of each file. -/
structure Sizes where
  main : Nat
  child : Nat
  inline : Nat
  deriving DecidableEq, Repr

/-- The bytes of all three files. -/
def Sizes.total (s : Sizes) : Nat := s.main + s.child + s.inline

end LinkedDocs.Dataset
