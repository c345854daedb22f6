import LinkedDocs.Toml.Scalar
import LinkedDocs.Toml.Table

/-!
# Reading TOML

A document is a list of statements, one a line at least: pairs of a key and a
value, and headers that say to which table the pairs after them belong. At most
79 arrays and inline tables may be open at once, and a dotted key has at most 79
parts.

* `Statement`: a pair or a header.
* `read`: the document as an object whose fields are in the order of the text.
-/

namespace LinkedDocs.Toml

/-- The greatest number of open arrays and inline tables, and of parts of a key. -/
def depthLimit : Nat := 79

/-! ## Values -/

mutual

/-- A value with at most `depth` arrays and inline tables open. -/
def value : Nat → Nat → List Char → Option (Value × List Char)
  | 0, _, _ => none
  | fuel + 1, depth, text =>
    match text with
    | '[' :: rest => if depth = 0 then none else items fuel (depth - 1) [] rest
    | '\x7b' :: rest =>
      if depth = 0 then none
      else
        match skipSpace rest with
        | '\x7d' :: rest => some (.object [], rest)
        | rest => pairs fuel (depth - 1) [] rest
    | text => scalarValue? text

/-- The items of an array from the next one on; `done` holds those before it, the last first. -/
def items : Nat → Nat → List Value → List Char → Option (Value × List Char)
  | 0, _, _, _ => none
  | fuel + 1, depth, done, text =>
    match skipLines false text with
    | ']' :: rest => some (.array done.reverse, rest)
    | text => do
      let (item, rest) ← value fuel depth text
      match skipLines false rest with
      | ']' :: rest => return (.array (item :: done).reverse, rest)
      | ',' :: rest => items fuel depth (item :: done) rest
      | _ => none

/-- The pairs of an inline table from the next one on, behind those of `done`. -/
def pairs : Nat → Nat → Fields → List Char → Option (Value × List Char)
  | 0, _, _, _ => none
  | fuel + 1, depth, done, text => do
    let (path, rest) ← keyPath? depthLimit text
    let (item, rest) ← value fuel depth (skipSpace (← after? '=' rest))
    let done ← done.put? path item
    match skipSpace rest with
    | '\x7d' :: rest => return (.object (fieldValues done), rest)
    | ',' :: rest => pairs fuel depth done rest
    | _ => none

end

/-- A value. -/
def value? (text : List Char) : Reading Value := value (2 * text.length + 2) depthLimit text

/-! ## Statements -/

/-- A statement of a document. -/
inductive Statement where
  /-- A value under a dotted key. -/
  | pair (path : List String) (v : Value)
  /-- The header of a table. -/
  | table (path : List String)
  /-- The header of a further table of a list. -/
  | tables (path : List String)

/-- One statement. -/
def statement? : List Char → Option (Statement × List Char)
  | '[' :: '[' :: rest => do
    let (path, rest) ← keyPath? depthLimit rest
    return (.tables path, ← after? ']' (← after? ']' rest))
  | '[' :: rest => do
    let (path, rest) ← keyPath? depthLimit rest
    return (.table path, ← after? ']' rest)
  | text => do
    let (path, rest) ← keyPath? depthLimit text
    let (v, rest) ← value? (skipSpace (← after? '=' rest))
    return (.pair path v, rest)

/-- The statements of at most `fuel` lines, behind those of `done`, which holds the last first. -/
def statementsOnto (done : List Statement) : Nat → List Char → Option (List Statement)
  | 0, _ => none
  | fuel + 1, text =>
    match afterLine? text with
    | some [] => some done.reverse
    | some rest => statementsOnto done fuel rest
    | none => do
      let (statement, rest) ← statement? (skipSpace text)
      match ← afterLine? rest with
      | [] => return (statement :: done).reverse
      | rest => statementsOnto (statement :: done) fuel rest

/-- The statements of a document; a byte order mark in front is passed over. -/
def statements? (text : List Char) : Option (List Statement) :=
  match text with
  | '\ufeff' :: rest => statementsOnto [] (text.length + 1) rest
  | _ => statementsOnto [] (text.length + 1) text

/-! ## Documents -/

/-- Adds statements to a document; pairs go to the table of the last header, `here`. -/
def assemble (root : Fields) (here : List String) : List Statement → Option Fields
  | [] => some root
  | .pair path v :: rest => do assemble (← root.within here (Fields.put? path v)) here rest
  | .table path :: rest => do assemble (← root.openTable? path) path rest
  | .tables path :: rest => do assemble (← root.openTables? path) path rest

/-- Reads a document; none if the text is no document. -/
def read (text : String) : Option Value := do
  let statements ← statements? text.toList
  return .object (fieldValues (← assemble [] [] statements))

end LinkedDocs.Toml
