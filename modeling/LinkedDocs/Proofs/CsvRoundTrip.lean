import LinkedDocs.Csv.Printer
import LinkedDocs.Csv.Reader
import LinkedDocs.Proofs.Utf8

/-!
# CSV is read as it was written

Rows of two or more fields, whatever text they hold, are read back field by
field. The reader works on bytes; as commas, quotes and line breaks are ASCII,
none of them is part of another character.

* `recordFields`: what the reader yields, without the places.
* `recordFields_field`, `recordFields_row`: one field and one row.
* `rows_fileText`: a file of rows, with or without a header.
-/

namespace LinkedDocs.Csv

/-! ## Records without places -/

/-- The fields of the records that are read from a state on. -/
def recordFields (s : Partial) : List UInt8 → List (List (List UInt8))
  | [] => if s.mode = .between then [] else [s.close]
  | b :: rest =>
    match step s b with
    | (t, none) => recordFields t rest
    | (t, some fields) => fields :: recordFields t rest

/-- The fields of records do not depend on where the records stand in the file. -/
theorem fields_recordsFrom (done : List Record) (before here : Position) (s : Partial)
    (bytes : List UInt8) :
    (recordsFrom done before here s bytes).map Record.fields =
      (done.map Record.fields).reverse ++ recordFields s bytes := by
  induction bytes generalizing done before here s with
  | nil =>
    rw [recordsFrom, recordFields]
    split <;> simp
  | cons b rest ih =>
    rw [recordsFrom, recordFields]
    rcases step s b with ⟨t, - | fields⟩
    · exact ih _ _ _ _
    · simp only [ih]
      simp

/-- A byte that ends no record is a step of the reader. -/
theorem recordFields_of_step {s t : Partial} {b : UInt8} (h : step s b = (t, none))
    (rest : List UInt8) : recordFields s (b :: rest) = recordFields t rest := by
  rw [recordFields, h]

/-- A byte that ends a record yields its fields. -/
theorem recordFields_of_end {s t : Partial} {b : UInt8} {fields : List (List UInt8)}
    (h : step s b = (t, some fields)) (rest : List UInt8) :
    recordFields s (b :: rest) = fields :: recordFields t rest := by
  rw [recordFields, h]

/-! ## One field -/

/-- A byte that ends no field. -/
def isPlain (b : UInt8) : Bool := b ≠ commaByte && !isBreak b

/-- Plain bytes are added to the field one by one. -/
theorem recordFields_plain {bytes : List UInt8} (h : ∀ b ∈ bytes, isPlain b = true)
    (field rest : List UInt8) (fields : List (List UInt8)) :
    recordFields ⟨.plain, field, fields⟩ (bytes ++ rest) =
      recordFields ⟨.plain, bytes.reverse ++ field, fields⟩ rest := by
  induction bytes generalizing field with
  | nil => rfl
  | cons b bytes ih =>
    rcases List.forall_mem_cons.1 h with ⟨hb, hbytes⟩
    simp only [isPlain, Bool.and_eq_true, decide_eq_true_eq, Bool.not_eq_true'] at hb
    have hstep : step ⟨.plain, field, fields⟩ b = (⟨.plain, b :: field, fields⟩, none) := by
      simp [step, hb.1, hb.2, Partial.push]
    rw [List.cons_append, recordFields_of_step hstep, ih hbytes, List.reverse_cons,
      List.append_assoc, List.singleton_append]

/-- Inside quotes a byte other than a quote is part of the field. -/
theorem recordFields_quoted {bytes : List UInt8} (h : quoteByte ∉ bytes)
    (field rest : List UInt8) (fields : List (List UInt8)) :
    recordFields ⟨.quoted, field, fields⟩ (bytes ++ rest) =
      recordFields ⟨.quoted, bytes.reverse ++ field, fields⟩ rest := by
  induction bytes generalizing field with
  | nil => rfl
  | cons b bytes ih =>
    rcases not_or.1 (mt List.mem_cons.2 h) with ⟨hb, hbytes⟩
    have hstep : step ⟨.quoted, field, fields⟩ b = (⟨.quoted, b :: field, fields⟩, none) := by
      simp [step, Ne.symm hb, Partial.push]
    rw [List.cons_append, recordFields_of_step hstep, ih hbytes, List.reverse_cons,
      List.append_assoc, List.singleton_append]

/-- Inside quotes a doubled quote stands for one. -/
theorem recordFields_doubleQuotes (text : List Char) (field rest : List UInt8)
    (fields : List (List UInt8)) :
    recordFields ⟨.quoted, field, fields⟩ (utf8 (doubleQuotes text) ++ rest) =
      recordFields ⟨.quoted, (utf8 text).reverse ++ field, fields⟩ rest := by
  induction text generalizing field with
  | nil => rfl
  | cons c text ih =>
    rw [doubleQuotes, List.flatMap_cons, ← doubleQuotes, utf8_append, utf8_cons, List.append_assoc,
      List.reverse_append, List.append_assoc]
    by_cases hc : c = '"'
    · subst hc
      exact ih (quoteByte :: field)
    · have hnat : c.toNat ≠ quoteByte.toNat := fun h => hc (Char.toNat_inj.1 h)
      have hquote : quoteByte ∉ String.utf8EncodeChar c :=
        notMem_utf8EncodeChar (by decide) hnat
      rw [if_neg hc, utf8_cons, utf8_nil, List.append_nil, recordFields_quoted hquote, ih]

/-- The reader stands before a field. -/
def Mode.opens (m : Mode) : Bool := m = .between || m = .fieldStart

/-- The reader stands behind a field, if a comma or a line feed comes next. -/
def Mode.closes (m : Mode) : Bool := m ≠ .quoted

/-- A text that needs no quotes has plain bytes only. -/
theorem isPlain_of_not_special {text : List Char} (h : needsQuotes text = false) :
    (∀ b ∈ utf8 text, isPlain b = true) ∧ quoteByte ∉ utf8 text := by
  -- A special byte is ASCII, so it would be a special character of the text.
  have hbyte : ∀ b : UInt8, isSpecial (Char.ofNat b.toNat) = true → b.toNat < 128 →
      b ∉ utf8 text := by
    intro b hb hsmall hmem
    rcases List.mem_flatMap.1 hmem with ⟨c, hc, hmem⟩
    refine notMem_utf8EncodeChar hsmall (fun heq => ?_) hmem
    have hspecial := List.any_eq_false.1 h c hc
    rw [← heq, Char.ofNat_toNat] at hb
    exact hspecial hb
  refine ⟨fun b hb => ?_, hbyte quoteByte (by decide) (by decide)⟩
  have hcomma : b ≠ commaByte := by
    rintro rfl
    exact hbyte commaByte (by decide) (by decide) hb
  have hfeed : b ≠ 10 := by
    rintro rfl
    exact hbyte 10 (by decide) (by decide) hb
  have hreturn : b ≠ 13 := by
    rintro rfl
    exact hbyte 13 (by decide) (by decide) hb
  simp [isPlain, isBreak, hcomma, hfeed, hreturn]

/-- A field without quotes around it. -/
theorem recordFields_bare {bytes : List UInt8} (hplain : ∀ b ∈ bytes, isPlain b = true)
    (hquote : quoteByte ∉ bytes) {m : Mode} (hm : m.opens = true) (rest : List UInt8)
    (fields : List (List UInt8)) :
    ∃ m' : Mode, m'.closes = true ∧ (m' = .between → m = .between) ∧
      recordFields ⟨m, [], fields⟩ (bytes ++ rest) =
        recordFields ⟨m', bytes.reverse, fields⟩ rest := by
  cases bytes with
  | nil =>
    -- over no byte the mode stays as it is
    refine ⟨m, ?_, id, rfl⟩
    cases m <;> simp_all [Mode.opens, Mode.closes]
  | cons b bytes =>
    -- the first byte makes the field a plain one, and no other ends it
    refine ⟨.plain, rfl, by simp, ?_⟩
    rcases List.forall_mem_cons.1 hplain with ⟨hb, hbytes⟩
    rcases not_or.1 (mt List.mem_cons.2 hquote) with ⟨hne, -⟩
    simp only [isPlain, Bool.and_eq_true, decide_eq_true_eq, Bool.not_eq_true'] at hb
    have hstep : step ⟨m, [], fields⟩ b = (⟨.plain, [b], fields⟩, none) := by
      cases m <;> simp_all [Mode.opens, step, Partial.push, Ne.symm hne]
    rw [List.cons_append, recordFields_of_step hstep, List.reverse_cons]
    exact recordFields_plain hbytes _ _ _

/-- A field that is written is read as its bytes. -/
theorem recordFields_field (text : List Char) {m : Mode} (hm : m.opens = true)
    (rest : List UInt8) (fields : List (List UInt8)) :
    ∃ m' : Mode, m'.closes = true ∧ (m' = .between → m = .between) ∧
      recordFields ⟨m, [], fields⟩ (utf8 (fieldChars text) ++ rest) =
        recordFields ⟨m', (utf8 text).reverse, fields⟩ rest := by
  rw [fieldChars]
  by_cases hquotes : needsQuotes text = true
  · -- an opening quote, the text with its quotes doubled, and a closing quote
    refine ⟨.quoteSeen, rfl, by simp, ?_⟩
    have hopen : step ⟨m, [], fields⟩ quoteByte = (⟨.quoted, [], fields⟩, none) := by
      cases m <;> simp_all [Mode.opens, step, isBreak, quoteByte]
    have hbytes : utf8 ('"' :: doubleQuotes text ++ ['"']) ++ rest =
        quoteByte :: (utf8 (doubleQuotes text) ++ quoteByte :: rest) := by
      rw [utf8_append, List.append_assoc]
      rfl
    have hclose : step ⟨.quoted, (utf8 text).reverse ++ [], fields⟩ quoteByte =
        (⟨.quoteSeen, (utf8 text).reverse ++ [], fields⟩, none) := by simp [step]
    rw [if_pos hquotes, hbytes, recordFields_of_step hopen, recordFields_doubleQuotes,
      recordFields_of_step hclose, List.append_nil]
  · -- no quotes around it: none of its bytes ends the field
    rw [Bool.not_eq_true] at hquotes
    rcases isPlain_of_not_special hquotes with ⟨hplain, hquote⟩
    rw [hquotes, if_neg Bool.false_ne_true]
    exact recordFields_bare hplain hquote hm rest fields

/-! ## One row -/

/-- A comma ends a field. -/
theorem recordFields_comma {m : Mode} (hm : m.closes = true) (field rest : List UInt8)
    (fields : List (List UInt8)) :
    recordFields ⟨m, field, fields⟩ (commaByte :: rest) =
      recordFields ⟨.fieldStart, [], field.reverse :: fields⟩ rest := by
  have hstep : step ⟨m, field, fields⟩ commaByte =
      (⟨.fieldStart, [], field.reverse :: fields⟩, none) := by
    cases m <;> simp_all [Mode.closes, step, isBreak, commaByte, quoteByte, Partial.endField]
  exact recordFields_of_step hstep rest

/-- A line feed ends a row. -/
theorem recordFields_lineFeed {m : Mode} (hm : m.closes = true) (hne : m ≠ .between)
    (field rest : List UInt8) (fields : List (List UInt8)) :
    recordFields ⟨m, field, fields⟩ (10 :: rest) =
      (field.reverse :: fields).reverse :: recordFields {} rest := by
  have hstep : step ⟨m, field, fields⟩ 10 = ({}, some (field.reverse :: fields).reverse) := by
    cases m <;> simp_all [Mode.closes, step, isBreak, commaByte, quoteByte, Partial.close]
  exact recordFields_of_end hstep rest

/-- The characters of a row without its line feed. -/
def joined (fields : List (List Char)) : List Char := [','].intercalate (fields.map fieldChars)

theorem utf8_joined_cons_cons (first second : List Char) (fields : List (List Char)) :
    utf8 (joined (first :: second :: fields)) =
      utf8 (fieldChars first) ++ commaByte :: utf8 (joined (second :: fields)) := by
  rw [joined, List.map_cons, List.map_cons, List.intercalate_cons_cons, ← List.map_cons, ← joined,
    utf8_append, utf8_append, List.append_assoc]
  rfl

/-- The last fields of a row. -/
theorem recordFields_joined (fields : List (List Char)) (first : List Char) (rest : List UInt8)
    (done : List (List UInt8)) :
    recordFields ⟨.fieldStart, [], done⟩ (utf8 (joined (first :: fields)) ++ 10 :: rest) =
      (done.reverse ++ (first :: fields).map utf8) :: recordFields {} rest := by
  induction fields generalizing first done with
  | nil =>
    rcases recordFields_field first (m := .fieldStart) rfl (10 :: rest) done with
      ⟨m, hm, hbetween, hfield⟩
    rw [joined, List.map_singleton, List.intercalate_singleton, hfield,
      recordFields_lineFeed hm fun h => nomatch hbetween h]
    simp
  | cons second fields ih =>
    obtain ⟨m, hm, -, hfield⟩ := recordFields_field first (m := .fieldStart) rfl
      (commaByte :: (utf8 (joined (second :: fields)) ++ 10 :: rest)) done
    rw [utf8_joined_cons_cons, List.append_assoc, List.cons_append, hfield, recordFields_comma hm,
      ih]
    simp

/-- A row is its fields with commas between them, and a line feed. -/
theorem toList_row (fields : List String) :
    (row fields).toList = joined (fields.map String.toList) ++ ['\n'] := by
  have hfield : ∀ text, (field text).toList = fieldChars text.toList := by
    intro text
    rw [field, fieldChars]
    split <;> simp
  rw [row, String.toList_append, String.toList_intercalate, joined, List.map_map, List.map_map]
  have hmap : fields.map (String.toList ∘ field) = fields.map (fieldChars ∘ String.toList) :=
    List.map_congr_left fun text _ => hfield text
  rw [hmap]
  rfl

/-- A row of two or more fields is read as the bytes of its fields. -/
theorem recordFields_row {fields : List String} (h : 2 ≤ fields.length) (rest : List UInt8) :
    recordFields {} (utf8 (row fields).toList ++ rest) =
      fields.map (utf8 ·.toList) :: recordFields {} rest := by
  rcases fields with - | ⟨first, - | ⟨second, fields⟩⟩
  · simp at h
  · simp at h
  obtain ⟨m, hm, -, hfield⟩ := recordFields_field first.toList (m := .between) rfl
    (commaByte :: (utf8 (joined (second.toList :: fields.map String.toList)) ++ 10 :: rest)) []
  rw [toList_row, utf8_append, List.append_assoc, List.map_cons, List.map_cons,
    utf8_joined_cons_cons, List.append_assoc, List.cons_append]
  refine hfield.trans ?_
  rw [recordFields_comma hm, recordFields_joined]
  simp

/-! ## A file -/

/-- The text of rows, one after the other. -/
def table (rows : List (List String)) : String := String.join (rows.map row)

theorem table_cons (fields : List String) (rows : List (List String)) :
    table (fields :: rows) = row fields ++ table rows := String.join_cons

theorem table_append (rows rows' : List (List String)) :
    table (rows ++ rows') = table rows ++ table rows' := by
  rw [table, List.map_append, String.join_append, table, table]

/-- A table is read as its rows, if each has two fields or more. -/
theorem recordFields_table {rows : List (List String)} (h : ∀ fields ∈ rows, 2 ≤ fields.length) :
    recordFields {} (utf8 (table rows).toList) =
      rows.map fun fields => fields.map (utf8 ·.toList) := by
  induction rows with
  | nil => rfl
  | cons fields rows ih =>
    rcases List.forall_mem_cons.1 h with ⟨hfields, hrows⟩
    rw [table_cons, String.toList_append, utf8_append, recordFields_row hfields, ih hrows,
      List.map_cons]

/-- The byte order mark. -/
def byteOrderMark : Char := '\ufeff'

/-- The first character of a text is told by the first bytes. -/
theorem eq_of_utf8EncodeChar_append {c d : Char} {bytes bytes' : List UInt8}
    (h : String.utf8EncodeChar c ++ bytes = String.utf8EncodeChar d ++ bytes') : c = d := by
  have hdecode : ∀ (c : Char) (bytes : List UInt8),
      (String.utf8EncodeChar c ++ bytes).toByteArray.utf8DecodeChar? 0 = some c := by
    intro c bytes
    rw [List.toByteArray_append]
    exact ByteArray.utf8DecodeChar?_utf8EncodeChar_append
  have := hdecode c bytes
  rw [h, hdecode d bytes'] at this
  exact (Option.some.inj this).symm

/-- Without a byte order mark in front the whole text is read. -/
theorem fields_records {text : List Char} (h : text.head? ≠ some byteOrderMark) :
    (records (utf8 text)).map Record.fields = recordFields {} (utf8 text) := by
  unfold records
  split
  · rename_i rest hbytes
    cases text with
    | nil => cases hbytes
    | cons c text =>
      have hmark : String.utf8EncodeChar c ++ utf8 text =
          String.utf8EncodeChar byteOrderMark ++ rest := hbytes
      exact absurd (congrArg some (eq_of_utf8EncodeChar_append hmark)) h
  · exact fields_recordsFrom [] _ _ _ _

/-- Fields that are the bytes of texts are read as those texts. -/
theorem textsFrom_utf8 (before : Position) (number : Nat) (fields : List String) :
    textsFrom before number (fields.map (utf8 ·.toList)) = .ok fields := by
  induction fields generalizing number with
  | nil => rfl
  | cons text fields ih =>
    rw [List.map_cons, textsFrom]
    simp only [fromUTF8?_utf8, ih]
    rfl

/-- Fields that are the bytes of texts are read as these texts. -/
theorem texts_of_fields {records : List Record} {rows : List (List String)}
    (h : records.map Record.fields = rows.map fun fields => fields.map (utf8 ·.toList)) :
    records.map Record.texts = rows.map .ok := by
  induction records generalizing rows with
  | nil => rw [List.map_eq_nil_iff.1 h.symm, List.map_nil, List.map_nil]
  | cons record records ih =>
    cases rows with
    | nil => cases h
    | cons fields rows =>
      rcases List.cons.inj h with ⟨hfirst, hrest⟩
      rw [List.map_cons, List.map_cons, ih hrest, Record.texts, hfirst, textsFrom_utf8]

/-- Without the header the first record is missing. -/
theorem fields_withoutHeader (records : List Record) :
    (withoutHeader records).map Record.fields = (records.map Record.fields).tail := by
  rcases records with - | ⟨header, - | ⟨first, rest⟩⟩ <;> rfl

/-- The text of a file: a row of column names if asked for, and the rows. -/
def fileText (headers : Bool) (columns : List String) (rows : List (List String)) : String :=
  (if headers then row columns else "") ++ table rows

theorem fileText_nil (headers : Bool) (columns : List String) :
    fileText headers columns [] = if headers then row columns else "" :=
  String.append_empty

/-- More rows are behind those of the file, without a second header row. -/
theorem fileText_append (headers : Bool) (columns : List String) (rows rows' : List (List String)) :
    fileText headers columns (rows ++ rows') =
      fileText headers columns rows ++ fileText false columns rows' := by
  unfold fileText
  rw [table_append, if_neg Bool.false_ne_true, String.empty_append, String.append_assoc]

/-- A field does not begin with the mark unless its text does. -/
theorem head?_fieldChars_append {text : List Char} {c : Char} (rest : List Char)
    (h : text.head? ≠ some byteOrderMark) (hc : c ≠ byteOrderMark) :
    (fieldChars text ++ c :: rest).head? ≠ some byteOrderMark := by
  unfold fieldChars
  split
  · intro hhead
    exact absurd (Option.some.inj hhead) (by decide)
  · cases text with
    | nil => exact fun hhead => hc (Option.some.inj hhead)
    | cons d text => exact h

/-- A row does not begin with the mark unless its first field does. -/
theorem head?_row {first : String} {rest : List String}
    (h : first.toList.head? ≠ some byteOrderMark) :
    (row (first :: rest)).toList.head? ≠ some byteOrderMark := by
  rw [toList_row]
  unfold joined
  cases rest with
  | nil =>
    simp only [List.map_cons, List.map_nil, List.intercalate_singleton]
    exact head?_fieldChars_append [] h (by decide)
  | cons second rest =>
    simp only [List.map_cons, List.intercalate_cons_cons, List.append_assoc,
      List.singleton_append]
    exact head?_fieldChars_append _ h (by decide)

/-- A row is not empty, so what begins with a row begins as the row does. -/
theorem head?_row_append {fields : List String}
    (h : (row fields).toList.head? ≠ some byteOrderMark) (text : List Char) :
    ((row fields).toList ++ text).head? ≠ some byteOrderMark := by
  obtain ⟨c, chars, hchars⟩ : ∃ c chars, (row fields).toList = c :: chars := by
    apply List.exists_cons_of_ne_nil
    rw [toList_row]
    simp
  rw [hchars] at h ⊢
  exact h

/-- A file does not begin with the mark if its first row does not. -/
theorem head?_fileText {headers : Bool} {columns : List String} {rows : List (List String)}
    (hcolumns : (row columns).toList.head? ≠ some byteOrderMark)
    (hrows : headers = false →
      ∀ fields ∈ rows.head?, (row fields).toList.head? ≠ some byteOrderMark) :
    (fileText headers columns rows).toList.head? ≠ some byteOrderMark := by
  unfold fileText
  cases headers with
  | true =>
    rw [if_pos rfl, String.toList_append]
    exact head?_row_append hcolumns _
  | false =>
    rw [if_neg Bool.false_ne_true, String.empty_append]
    cases rows with
    | nil => nofun
    | cons fields rows =>
      rw [table_cons, String.toList_append]
      exact head?_row_append (hrows rfl fields rfl) _

/-- A file of rows is read as those rows. -/
theorem rows_fileText {headers : Bool} {columns : List String} {rows : List (List String)}
    (hcolumns : 2 ≤ columns.length) (hrows : ∀ fields ∈ rows, 2 ≤ fields.length)
    (hmark : (fileText headers columns rows).toList.head? ≠ some byteOrderMark) :
    Csv.rows headers (.file (fileText headers columns rows).toByteArray) = rows.map .ok := by
  have hfields := fields_records hmark
  rw [Csv.rows, toList_data_toByteArray]
  cases headers with
  | false =>
    apply texts_of_fields
    rw [if_neg Bool.false_ne_true, hfields]
    simp only [fileText, Bool.false_eq_true, if_false, String.empty_append]
    exact recordFields_table hrows
  | true =>
    apply texts_of_fields
    rw [if_pos rfl, fields_withoutHeader, hfields]
    simp only [fileText, if_true, String.toList_append, utf8_append]
    rw [recordFields_row hcolumns, List.tail_cons, recordFields_table hrows]

end LinkedDocs.Csv
