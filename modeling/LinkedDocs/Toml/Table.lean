import LinkedDocs.Value

/-!
# Tables of TOML documents

The tables of a document while it is read. What a table may still receive
depends on how it came about: a header may fill a table that was only passed on
the way to another one, and dotted keys may add to tables that dotted keys made.

* `Fields.put?`: a value under a dotted key.
* `Fields.openTable?`, `Fields.openTables?`: what a header does.
-/

namespace LinkedDocs.Toml

/-- How a table came about. -/
inductive Origin where
  /-- By a header of its own. -/
  | header
  /-- On the way to the table of a longer header. -/
  | passed
  /-- By a dotted key. -/
  | dotted
  deriving DecidableEq, Repr

/-- What stands under a key. -/
inductive Item where
  | value (v : Value)
  | table (origin : Origin) (fields : List (String × Item))
  /-- A list of tables; keys go to the last one. -/
  | tables (before : List (List (String × Item))) (last : List (String × Item))

/-- The keys of a table in the order in which they came about. -/
abbrev Fields := List (String × Item)

mutual

/-- The finished item. -/
def Item.toValue : Item → Value
  | .value v => v
  | .table _ fields => .object (fieldValues fields)
  | .tables before last => .array (tableValues before ++ [.object (fieldValues last)])

/-- The finished items of a table. -/
def fieldValues : List (String × Item) → List (String × Value)
  | [] => []
  | (key, item) :: rest => (key, item.toValue) :: fieldValues rest

/-- The finished tables of a list. -/
def tableValues : List (List (String × Item)) → List Value
  | [] => []
  | fields :: rest => .object (fieldValues fields) :: tableValues rest

end

namespace Fields

/-- Changes what stands under a key, in its place or at the end. -/
def alter (key : String) (change : Option Item → Option Item) : Fields → Option Fields
  | [] => (change none).map fun item => [(key, item)]
  | (k, item) :: rest =>
    if k = key then (change (some item)).map fun item => (k, item) :: rest
    else (alter key change rest).map fun rest => (k, item) :: rest

/-- Puts a value under a key that is still free. -/
def putNew (key : String) (v : Value) : Fields → Option Fields :=
  alter key fun
    | none => some (.value v)
    | some _ => none

/-- Puts a value under a dotted key: the keys on the way, and the last one. -/
def putDotted (way : List String) (key : String) (v : Value) (fields : Fields) : Option Fields :=
  match way with
  | [] => putNew key v fields
  | k :: ks => alter k (fun
      | none => (putDotted ks key v []).map (.table .dotted)
      | some (.table .dotted inner) => (putDotted ks key v inner).map (.table .dotted)
      | some (.table .passed inner) =>
        if ks.isEmpty then none else (putDotted ks key v inner).map (.table .passed)
      | some (.tables before last) =>
        if ks.isEmpty then none else (putDotted ks key v last).map (.tables before)
      | some _ => none) fields

/-- Puts a value under a dotted key. -/
def put? (path : List String) (v : Value) (fields : Fields) : Option Fields :=
  match path.getLast? with
  | some key => putDotted path.dropLast key v fields
  | none => none

/-- Changes the table that a path of keys leads to; missing tables on the way are made. -/
def within (path : List String) (change : Fields → Option Fields) (fields : Fields) :
    Option Fields :=
  match path with
  | [] => change fields
  | k :: ks => alter k (fun
      | none => (within ks change []).map (.table .passed)
      | some (.table origin inner) => (within ks change inner).map (.table origin)
      | some (.tables before last) => (within ks change last).map (.tables before)
      | some (.value _) => none) fields

/-- Opens a table under a key; one that was only passed so far moves to the end. -/
def openHere (key : String) (fields : Fields) : Option Fields :=
  match fields.lookup key with
  | none => some (fields ++ [(key, .table .header [])])
  | some (.table .passed inner) =>
    some (fields.filter (fun (k, _) => k ≠ key) ++ [(key, .table .header inner)])
  | some _ => none

/-- Opens a further table of the list under a key. -/
def openMoreHere (key : String) : Fields → Option Fields :=
  alter key fun
    | none => some (.tables [] [])
    | some (.tables before last) => some (.tables (before ++ [last]) [])
    | some _ => none

/-- What the header of a table does. -/
def openTable? (path : List String) (fields : Fields) : Option Fields :=
  match path.getLast? with
  | some key => within path.dropLast (openHere key) fields
  | none => none

/-- What the header of a further table of a list does. -/
def openTables? (path : List String) (fields : Fields) : Option Fields :=
  match path.getLast? with
  | some key => within path.dropLast (openMoreHere key) fields
  | none => none

end Fields

end LinkedDocs.Toml
