import LinkedDocs.Command.Run
import LinkedDocs.Proofs.Places

/-!
# The options of a run

The options come from the fields of a configuration file, if one is given, and
from the arguments beside it. A directory that is given there wins over that of
the file; header rows are written if either of them asks for that.

* `Value.optional_ok_iff`: a field that reads, or is left out.
* `Config.Says`: the fields of the configuration file.
* `Config.load_ok`, `loadOptions_ok`: the options that they make.
-/

namespace LinkedDocs

namespace Value

/-- Only a string is read as a path. -/
theorem asPath_ok {v : Value} {path : String} (h : asPath v = .ok path) : v = .string path := by
  cases v with
  | string s =>
    cases h
    rfl
  | _ => cases h

/-- Only a truth value is read as a flag. -/
theorem asBool_ok {v : Value} {b : Bool} (h : asBool v = .ok b) : v = .bool b := by
  cases v with
  | bool b' =>
    cases h
    rfl
  | _ => cases h

/-- A field that may be left out is left out, or reads. -/
theorem optional_ok {α : Type} {read : Value → Decoded α} {fields : List (String × Value)}
    {name : String} {absent a : α} (h : optional read fields name absent = .ok a) :
    (field? name fields = none ∧ a = absent) ∨
      ∃ v, field? name fields = some v ∧ read v = .ok a := by
  unfold optional at h
  split at h
  · rename_i v hfield
    exact .inr ⟨v, hfield, h⟩
  · rename_i hfield
    cases h
    exact .inl ⟨hfield, rfl⟩

end Value

/-- A document is a table. -/
theorem Toml.read_ok {text : String} {document : Value} (h : Toml.read text = some document) :
    ∃ fields, document = .object fields := by
  unfold Toml.read at h
  obtain ⟨statements, -, h⟩ := Option.bind_eq_some_iff.1 h
  obtain ⟨fields, -, h⟩ := Option.bind_eq_some_iff.1 h
  cases h
  exact ⟨_, rfl⟩

/-- Reading a text changes nothing. -/
theorem FileWork.readText_ok {path text : String} {t t' : FileTree}
    (h : readText path t = (.ok text, t')) : t' = t := by
  unfold readText at h
  rw [bind_ok_iff] at h
  obtain ⟨entry, u, hopen, h⟩ := h
  obtain ⟨rfl, -⟩ := openEntry_ok hopen
  rcases entry with bytes | -
  · dsimp only at h
    rcases hdecoded : String.fromUTF8? bytes with - | decoded
    · rw [hdecoded] at h
      exact absurd h throw_ne_ok
    · rw [hdecoded] at h
      exact (pure_ok_iff.1 h).2
  · exact absurd h throw_ne_ok

/-! ## The fields of a configuration file -/

namespace Config

open Generation

/-- The fields of the configuration file; there are none if no file is given. -/
def Says (config : Option String) (t : FileTree) (fields : List (String × Value)) : Prop :=
  match config with
  | none => fields = []
  | some path =>
    ∃ text, FileWork.readText path t = (.ok text, t) ∧ Toml.read text = some (.object fields)

/-- The directory that the fields name. -/
def outDir? (fields : List (String × Value)) : Option String :=
  (Value.field? "out_dir" fields).bind Value.string?

/-- The fields ask for header rows. -/
def SetsHeaders (fields : List (String × Value)) : Prop :=
  Value.field? "headers" fields = some (.bool true)

/-- Options that are read from an object have its directory and its header flag, or the defaults. -/
theorem ofValue_ok {fields : List (String × Value)} {options : Options}
    (h : Options.ofValue (.object fields) = .ok options) :
    options.outDir = (outDir? fields).getD "data" ∧
      (options.headers = true ↔ SetsHeaders fields) := by
  unfold Options.ofValue at h
  obtain ⟨_, -, h⟩ := except_bind_ok_iff.1 h
  obtain ⟨outDir, houtDir, h⟩ := except_bind_ok_iff.1 h
  obtain ⟨headers, hheaders, h⟩ := except_bind_ok_iff.1 h
  obtain ⟨seed, -, h⟩ := except_bind_ok_iff.1 h
  obtain ⟨referenceTime, -, h⟩ := except_bind_ok_iff.1 h
  obtain rfl := Except.ok.inj h
  constructor
  · show outDir = _
    unfold outDir?
    rcases Value.optional_ok houtDir with ⟨hnone, rfl⟩ | ⟨v, hsome, hread⟩
    · rw [hnone]
      rfl
    · rw [hsome, Value.asPath_ok hread]
      rfl
  · show headers = true ↔ _
    unfold SetsHeaders
    rcases Value.optional_ok hheaders with ⟨hnone, rfl⟩ | ⟨v, hsome, hread⟩
    · rw [hnone]
      constructor
      · intro hfalse
        cases hfalse
      · intro hfalse
        cases hfalse
    · rw [hsome, Value.asBool_ok hread]
      constructor
      · rintro rfl
        rfl
      · intro hbool
        cases hbool
        rfl

/-- A configuration that is read is a table of options. -/
theorem parse_ok {text : String} {options : Options} (h : parse text = .ok options) :
    ∃ fields, Toml.read text = some (.object fields) ∧
      Options.ofValue (.object fields) = .ok options := by
  unfold parse at h
  split at h
  · cases h
  · rename_i hdocument
    obtain ⟨fields, rfl⟩ := Toml.read_ok hdocument
    split at h
    · rename_i hvalue
      cases h
      exact ⟨fields, hdocument, hvalue⟩
    · cases h

/-- The options that load are made of the fields of the file; loading them changes no file. -/
theorem load_ok {config : Option String} {session loaded : Session} {options : Options}
    (h : load config session = (.ok options, loaded)) :
    loaded.tree = session.tree ∧ ∃ fields, Says config session.tree fields ∧
      options.outDir = (outDir? fields).getD "data" ∧
      (options.headers = true ↔ SetsHeaders fields) := by
  cases config with
  | none =>
    obtain ⟨rfl, rfl⟩ := pure_ok_iff.1 h
    -- No file has the same effect as an empty one.
    have hempty : Options.ofValue (.object []) = .ok {} := rfl
    exact ⟨rfl, [], rfl, ofValue_ok hempty⟩
  | some path =>
    unfold load at h
    rw [bind_ok_iff] at h
    obtain ⟨text, read, hread, h⟩ := h
    obtain ⟨tree, htext, rfl⟩ := SessionWork.onTree_ok_iff.1 hread
    obtain rfl := FileWork.readText_ok htext
    rcases hparse : parse text with e | options'
    · rw [hparse] at h
      exact absurd h throw_ne_ok
    rw [hparse] at h
    obtain ⟨rfl, rfl⟩ := pure_ok_iff.1 h
    obtain ⟨fields, hdocument, hvalue⟩ := parse_ok hparse
    exact ⟨rfl, fields, ⟨text, htext, hdocument⟩, ofValue_ok hvalue⟩

end Config

/-! ## The options of the arguments -/

namespace Command

/--
The options of a run: the directory is that of the arguments, or else that of the
file, or else `data`; there are header rows if the arguments or the file say so.
-/
theorem loadOptions_ok {arguments : Arguments} {session loaded : Session}
    {options : Generation.Options} (h : loadOptions arguments session = (.ok options, loaded)) :
    loaded.tree = session.tree ∧ ∃ fields, Config.Says arguments.config session.tree fields ∧
      options.outDir = arguments.outDir.getD ((Config.outDir? fields).getD "data") ∧
      (options.headers = true ↔ arguments.headers = true ∨ Config.SetsHeaders fields) := by
  unfold loadOptions at h
  rw [bind_ok_iff] at h
  obtain ⟨base, read, hload, h⟩ := h
  obtain ⟨rfl, rfl⟩ := pure_ok_iff.1 h
  obtain ⟨htree, fields, hsays, hdir, hheaders⟩ :=
    Config.load_ok (SessionWork.within_ok_iff.1 hload)
  refine ⟨htree, fields, hsays, ?_, ?_⟩
  · rw [← hdir]
    rfl
  · rw [← hheaders]
    exact Bool.or_eq_true_iff

end Command

end LinkedDocs
