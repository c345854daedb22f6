import LinkedDocs.Calendar.Reader
import LinkedDocs.Text.Quoted
import LinkedDocs.Value

/-!
# Typed reading of values

Readers of scalars and of records. The fields of a record come from an object,
whose keys are visited in its order, or from an array in the order of the
record. The first fault wins; a missing field is found last.

* `firstFault`: the first field of an object that does not read.
* `required`, `optional`: fields of an object all of whose fields read.
* `item`, `endOfItems`: the same for arrays.
-/

namespace LinkedDocs.Value

open Calendar

/-- How a float is shown in messages: by the shortest digits that read back. -/
inductive FloatStyle where
  /-- Without an exponent; of two equally near numbers the greater one. -/
  | positional
  /--
  With a signed exponent for numbers of more than 16 digits or below 0.00001; of
  two equally near numbers the one with an even last digit.
  -/
  | scientific
  deriving DecidableEq, Repr

/-- Why a value is not of the wanted type. -/
inductive DecodeFault where
  | wrongType (found : Value) (expected : String)
  | wrongValue (found : Value) (expected : String)
  | wrongLength (length : Nat) (expected : String)
  | missingField (name : String)
  | dateTime (fault : ReadFault)
  deriving Repr

/-- A finite number with an exponent where it is very large or very small. -/
def scientific (x : Binary64) : String :=
  match x.magnitude with
  | .finite .. =>
    let decimal := x.magnitude.shortest .even
    let digits := Text.decimalChars decimal.digits
    let point : Int := digits.length + decimal.power
    if x.magnitude.isZero || (-5 < point && point ≤ 16) then x.withPoint .even
    else
      let rest := digits.drop 1
      let mantissa := digits.take 1 ++ if rest.isEmpty then [] else '.' :: rest
      (if x.negative then "-" else "") ++ String.ofList mantissa ++ "e"
        ++ (if 0 < point then "+" else "") ++ Text.signedDecimal (point - 1)
  | _ => x.withPoint .even

/-- A value in a message. -/
def describe (style : FloatStyle) : Value → String
  | .null => "null"
  | .bool b => "boolean `" ++ (if b then "true" else "false") ++ "`"
  | .int n => "integer `" ++ Text.signedDecimal n ++ "`"
  | .float x =>
    let text := match style with
      | .positional => x.withPoint .up
      | .scientific => scientific x
    "floating point `" ++ text ++ "`"
  | .string s => "string " ++ Text.quoted s
  | .array _ => "sequence"
  | .object _ => "map"

/-- The words for a fault. -/
def DecodeFault.message (style : FloatStyle) : DecodeFault → String
  | wrongType found expected =>
    "invalid type: " ++ describe style found ++ ", expected " ++ expected
  | wrongValue found expected =>
    "invalid value: " ++ describe style found ++ ", expected " ++ expected
  | wrongLength length expected =>
    "invalid length " ++ Text.decimal length ++ ", expected " ++ expected
  | missingField name => "missing field `" ++ name ++ "`"
  | dateTime fault => fault.message

/-- What reading a value of a type yields. -/
abbrev Decoded (α : Type) := Except DecodeFault α

/-! ## Scalars -/

/-- A truth value. -/
def asBool : Value → Decoded Bool
  | .bool b => .ok b
  | v => .error (.wrongType v "a boolean")

/-- A text. -/
def asString : Value → Decoded String
  | .string s => .ok s
  | v => .error (.wrongType v "a string")

/-- A path. -/
def asPath : Value → Decoded String
  | .string s => .ok s
  | v => .error (.wrongType v "path string")

/-- A natural number below 2^64; `expected` names the type in faults. -/
def asWord (expected : String) : Value → Decoded Nat
  | .int n =>
    if 0 ≤ n ∧ n < Text.word64 then .ok n.toNat else .error (.wrongValue (.int n) expected)
  | v => .error (.wrongType v expected)

/-- A count, index or seed. -/
def asNat64 : Value → Decoded Nat := asWord "u64"

/-- A size. -/
def asSize : Value → Decoded Nat := asWord "usize"

/-- A date-time in the layout of option values. -/
def asDateTime : Value → Decoded DateTime
  | .string s =>
    match DateTime.read isoLayout s with
    | .ok t => .ok t
    | .error fault => .error (.dateTime fault)
  | v => .error (.wrongType v "a formatted date and time string")

/-- A value that may be null. -/
def orNull {α : Type} (read : Value → Decoded α) : Value → Decoded (Option α)
  | .null => .ok none
  | v => do return some (← read v)

/-- A sequence of values. -/
def asList {α : Type} (read : Value → Decoded α) : Value → Decoded (List α)
  | .array items => items.mapM read
  | v => .error (.wrongType v "a sequence")

/-! ## Records -/

/-- The fields of a record: names in order, and whether a value reads. -/
abbrev Checks := List (String × (Value → Decoded Unit))

/-- Whether a value reads. -/
def check {α : Type} (read : Value → Decoded α) (v : Value) : Decoded Unit := do
  let _ ← read v

/-- The first field of an object that does not read; unknown keys are passed over. -/
def firstFault (checks : Checks) : List (String × Value) → Decoded Unit
  | [] => .ok ()
  | (key, v) :: rest =>
    match checks.lookup key with
    | none => firstFault checks rest
    | some read => do
      read v
      firstFault checks rest

/-- A field that must be there. -/
def required {α : Type} (read : Value → Decoded α) (fields : List (String × Value))
    (name : String) : Decoded α :=
  match field? name fields with
  | some v => read v
  | none => .error (.missingField name)

/-- A field that may be left out. -/
def optional {α : Type} (read : Value → Decoded α) (fields : List (String × Value))
    (name : String) (absent : α) : Decoded α :=
  match field? name fields with
  | some v => read v
  | none => .ok absent

/-- An item of an array that must be there; `expected` describes the whole. -/
def item {α : Type} (read : Value → Decoded α) (items : List Value) (place : Nat)
    (expected : String) : Decoded α :=
  match items[place]? with
  | some v => read v
  | none => .error (.wrongLength place expected)

/-- An item of an array that may be left out. -/
def itemOr {α : Type} (read : Value → Decoded α) (items : List Value) (place : Nat)
    (absent : α) : Decoded α :=
  match items[place]? with
  | some v => read v
  | none => .ok absent

/-- An array has no more than `count` items. -/
def endOfItems (items : List Value) (count : Nat) : Decoded Unit :=
  if items.length ≤ count then .ok ()
  else .error (.wrongLength items.length "fewer elements in array")

end LinkedDocs.Value
