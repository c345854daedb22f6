import LinkedDocs.FileTree
import LinkedDocs.Text.Decimal

/-!
# Reading CSV

A file is read byte by byte. A line feed or a carriage return ends a record;
between records both are skipped, so empty lines count for nothing. A field that
begins with a quote runs to the closing quote, a doubled quote inside stands for
one, and what follows the closing quote is appended as it is. A quote elsewhere
is an ordinary byte. A byte order mark at the very start is skipped.

* `step`: one byte.
* `records`: the records of a file, each with the place where the reader stood
  before it.
* `rows`: the records as text, without the header if there is one.
-/

namespace LinkedDocs.Csv

/-! ## Records -/

/-- A place in a file: the records, lines and bytes before it, lines counted from 1. -/
structure Position where
  record : Nat := 0
  line : Nat := 1
  byte : Nat := 0
  deriving DecidableEq, Repr

/-- The place one byte further. -/
def Position.past (p : Position) (b : UInt8) : Position :=
  { p with line := if b = 10 then p.line + 1 else p.line, byte := p.byte + 1 }

/-- The same place with one record more before it. -/
def Position.pastRecord (p : Position) : Position := { p with record := p.record + 1 }

/-- Where in a record the reader stands. -/
inductive Mode where
  /-- Before a record. -/
  | between
  /-- Before the first byte of a field that follows a comma. -/
  | fieldStart
  /-- Inside a field, past any quotes around it. -/
  | plain
  /-- Inside quotes. -/
  | quoted
  /-- After a quote inside quotes. -/
  | quoteSeen
  deriving DecidableEq, Repr

/-- The record in progress; the last byte and the last field come first. -/
structure Partial where
  mode : Mode := .between
  field : List UInt8 := []
  fields : List (List UInt8) := []
  deriving DecidableEq, Repr

namespace Partial

/-- One byte more in the field. -/
def push (s : Partial) (mode : Mode) (b : UInt8) : Partial :=
  { s with mode, field := b :: s.field }

/-- The end of a field; another one follows. -/
def endField (s : Partial) : Partial :=
  { mode := .fieldStart, field := [], fields := s.field.reverse :: s.fields }

/-- The fields of the record, in order. -/
def close (s : Partial) : List (List UInt8) := (s.field.reverse :: s.fields).reverse

end Partial

/-- The byte of a comma. -/
def commaByte : UInt8 := 44

/-- The byte of a quote. -/
def quoteByte : UInt8 := 34

/-- The byte ends a record. -/
def isBreak (b : UInt8) : Bool := b = 10 || b = 13

/-- Reads one byte; yields the fields of a record that it ends. -/
def step (s : Partial) (b : UInt8) : Partial × Option (List (List UInt8)) :=
  match s.mode with
  | .quoted =>
    if b = quoteByte then ({ s with mode := .quoteSeen }, none) else (s.push .quoted b, none)
  | .between =>
    if isBreak b then (s, none)
    else if b = quoteByte then ({ s with mode := .quoted }, none)
    else if b = commaByte then (s.endField, none)
    else (s.push .plain b, none)
  | .fieldStart =>
    if b = quoteByte then ({ s with mode := .quoted }, none)
    else if b = commaByte then (s.endField, none)
    else if isBreak b then ({}, some s.close)
    else (s.push .plain b, none)
  | .quoteSeen =>
    if b = quoteByte then (s.push .quoted b, none)
    else if b = commaByte then (s.endField, none)
    else if isBreak b then ({}, some s.close)
    else (s.push .plain b, none)
  | .plain =>
    if b = commaByte then (s.endField, none)
    else if isBreak b then ({}, some s.close)
    else (s.push .plain b, none)

/-- The bytes of a record's fields, and where the reader stood before it. -/
structure Record where
  before : Position
  fields : List (List UInt8)
  deriving DecidableEq, Repr

/-- Reads records from `here` on, behind those of `done`, which holds the last first. -/
def recordsFrom (done : List Record) (before here : Position) (s : Partial) :
    List UInt8 → List Record
  | [] =>
    (if s.mode = .between then done else ⟨before, s.close⟩ :: done).reverse
  | b :: rest =>
    match step s b with
    | (t, none) => recordsFrom done before (here.past b) t rest
    | (t, some fields) =>
      let next := (here.past b).pastRecord
      recordsFrom (⟨before, fields⟩ :: done) next next t rest

/-- The records of a file; a byte order mark in front is passed over. -/
def records (bytes : List UInt8) : List Record :=
  match bytes with
  | 0xef :: 0xbb :: 0xbf :: rest => recordsFrom [] {} { byte := 3 } {} rest
  | _ => recordsFrom [] {} {} {} bytes

/-- The records after the header; the first of them counts as begun where the header begins. -/
def withoutHeader : List Record → List Record
  | header :: first :: rest => { first with before := header.before } :: rest
  | _ => []

/-! ## Text -/

/-- Why a file yields no row. -/
inductive Fault where
  /-- The file cannot be opened or read. -/
  | file (fault : FileFault)
  /-- Field `field` of the record after `before` is not text from byte `byte` on. -/
  | notText (before : Position) (field byte : Nat)
  deriving DecidableEq, Repr

/-- The words for a fault. -/
def Fault.message : Fault → String
  | file fault => fault.message
  | notText before field byte =>
    "CSV parse error: record " ++ Text.decimal before.record ++ " (line "
      ++ Text.decimal before.line ++ ", field: " ++ Text.decimal field ++ ", byte: "
      ++ Text.decimal before.byte ++ "): invalid utf-8: invalid UTF-8 in field "
      ++ Text.decimal field ++ " near byte index " ++ Text.decimal byte

/-- The number of bytes, from `place` on, before the first that begins no character. -/
def textEnd (bytes : ByteArray) (place : Nat) : Nat :=
  if _h : place < bytes.size then
    match bytes.utf8DecodeChar? place with
    | some c => textEnd bytes (place + c.utf8Size)
    | none => place
  else place
termination_by bytes.size - place
decreasing_by
  have := c.utf8Size_pos
  omega

/-- Fields as text, from field `number` on; the first that is not text is reported. -/
def textsFrom (before : Position) (number : Nat) : List (List UInt8) → Except Fault (List String)
  | [] => .ok []
  | field :: rest =>
    let bytes : ByteArray := ⟨field.toArray⟩
    match String.fromUTF8? bytes with
    | some text => do
      let texts ← textsFrom before (number + 1) rest
      return text :: texts
    | none => .error (.notText before number (textEnd bytes 0))

/-- The fields of a record as text. -/
def Record.texts (r : Record) : Except Fault (List String) := textsFrom r.before 0 r.fields

/-- The rows of what stands at a path; a directory yields one fault. -/
def rows (headers : Bool) : Entry → List (Except Fault (List String))
  | .dir => [.error (.file .isDirectory)]
  | .file bytes =>
    let all := records bytes.data.toList
    (if headers then withoutHeader all else all).map Record.texts

end LinkedDocs.Csv
