import LinkedDocs.Number.Binary64

/-!
# Values of data formats

What a JSON text or a configuration file holds: scalars, sequences and tables.
The fields of an object are an association list; each reader says in which order
it keeps them.
-/

namespace LinkedDocs

/-- A value of a data format. -/
inductive Value where
  | null
  | bool (b : Bool)
  | int (n : Int)
  | float (x : Binary64)
  | string (s : String)
  | array (items : List Value)
  | object (fields : List (String × Value))
  deriving Repr, Inhabited

namespace Value

/-- Sets a field of an object whose keys ascend by code point; an older value is replaced. -/
def insertField (key : String) (value : Value) :
    List (String × Value) → List (String × Value)
  | [] => [(key, value)]
  | (k, v) :: rest =>
    if key < k then (key, value) :: (k, v) :: rest
    else if key = k then (key, value) :: rest
    else (k, v) :: insertField key value rest

/-- The value of a key. -/
def field? (key : String) (fields : List (String × Value)) : Option Value :=
  fields.lookup key

/-- The text of a string value. -/
def string? : Value → Option String
  | string s => some s
  | _ => none

/-- A natural number as a value. -/
def ofNat (n : Nat) : Value := int n

end Value

end LinkedDocs
