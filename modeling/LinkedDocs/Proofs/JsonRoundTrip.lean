import LinkedDocs.Proofs.JsonLayout
import LinkedDocs.Proofs.Numerals
import LinkedDocs.Proofs.Work

/-!
# JSON is read as it was written

A string is read back as it was, whatever characters it holds, a whole number of
64 bits as that number, and so is a value of these in any layout. Only the order
of the fields of an object is not kept: they come back in ascending order.

* `Value.Exact`: the values of which that holds; `Value.sorted`: what they are read as.
* `stringRest_escape`: a string between quotes.
* `number_decimalChars`: a numeral.
* `Layout.value_chars`: a value, by recursion on its parts.
* `read_compact`, `read_pretty`: whole texts.
-/

namespace LinkedDocs

/-! ## Values that are read as they are -/

namespace Value

mutual

/--
A value that the reader knows whole: it holds no floats, its numbers have 64 bits,
and less than `depth` arrays and objects lie inside one another.
-/
def Exact (depth : Nat) : Value → Prop
  | .int n => Int64.minValue.toInt ≤ n ∧ n < Text.word64
  | .float _ => False
  | .array items => 1 < depth ∧ ExactItems (depth - 1) items
  | .object fields => 1 < depth ∧ ExactFields (depth - 1) fields
  | _ => True

/-- The items of an array. -/
def ExactItems (depth : Nat) : List Value → Prop
  | [] => True
  | item :: rest => Exact depth item ∧ ExactItems depth rest

/-- The fields of an object. -/
def ExactFields (depth : Nat) : List (String × Value) → Prop
  | [] => True
  | (_, item) :: rest => Exact depth item ∧ ExactFields depth rest

end

mutual

/-- The value with the fields of each object in the order in which the reader keeps them. -/
def sorted : Value → Value
  | .array items => .array (sortedItems items)
  | .object fields => .object (sortedFields [] fields)
  | value => value

/-- The items of an array. -/
def sortedItems : List Value → List Value
  | [] => []
  | item :: rest => sorted item :: sortedItems rest

/-- The fields of an object, after those that are `done`. -/
def sortedFields (done : List (String × Value)) : List (String × Value) → List (String × Value)
  | [] => done
  | (key, item) :: rest => sortedFields (insertField key (sorted item) done) rest

end

end Value

namespace Json

open Text

/-! ## Strings -/

/-- The digits of the escape of a control character are read as its code. -/
theorem hexValue4?_control : ∀ n < 0x20,
    hexValue4? '0' '0' (hexDigit (n / 16)) (hexDigit (n % 16)) = some n := by
  decide

/-- The escape of a character is read as that character. -/
theorem stringRest_escapeChar (done : List Char) (c : Char) (rest : List Char) :
    stringRest done (escapeChar c ++ rest) = stringRest (c :: done) rest := by
  unfold escapeChar
  split
  · simp [stringRest, shortEscape?]
  · simp [stringRest, shortEscape?]
  · simp [stringRest, shortEscape?]
  · simp [stringRest, shortEscape?]
  · simp [stringRest, shortEscape?]
  · simp [stringRest, shortEscape?]
  · simp [stringRest, shortEscape?]
  · rename_i hquote hslash _ _ _ _ _
    split
    · rename_i hcontrol
      -- No control character is half of a surrogate pair.
      have hlow : ¬ (0xdc00 ≤ c.toNat ∧ c.toNat ≤ 0xdfff) := by omega
      have hhigh : ¬ (0xd800 ≤ c.toNat ∧ c.toNat ≤ 0xdbff) := by omega
      simp only [List.cons_append, List.nil_append, stringRest, hexValue4?_control _ hcontrol,
        if_neg hlow, if_neg hhigh, Char.ofNat_toNat]
    · rename_i hcontrol
      rw [List.singleton_append, stringRest]
      · rw [if_neg hcontrol]
      · exact fun h => hquote h
      · exact fun h _ => hslash h
      · exact fun _ h _ => hslash h
      · exact fun _ _ h _ => hslash h

/-- A string is read to its closing quote, and not past it. -/
theorem stringRest_escape (done text rest : List Char) :
    stringRest done (escape text ++ '"' :: rest) =
      .ok (String.ofList (done.reverse ++ text), rest) := by
  induction text generalizing done with
  | nil => simp [escape, stringRest]
  | cons c text ih =>
    rw [escape, List.flatMap_cons, ← escape, List.append_assoc, stringRest_escapeChar, ih,
      List.reverse_cons, List.append_assoc, List.singleton_append]

/-! ## Blanks -/

theorem skipSpace_cons {c : Char} (h : isSpace c = false) (rest : List Char) :
    skipSpace (c :: rest) = c :: rest := by
  rw [skipSpace, List.dropWhile_cons_of_neg (by simp [h])]

/-- Blanks in front are passed over. -/
theorem skipSpace_append {gap : List Char} (h : ∀ c ∈ gap, isSpace c = true) (rest : List Char) :
    skipSpace (gap ++ rest) = skipSpace rest := by
  rw [skipSpace, List.dropWhile_append_of_pos h]
  rfl

/-- The blanks in front of a value are passed over. -/
theorem value_append {gap : List Char} (h : ∀ c ∈ gap, isSpace c = true) (fuel depth : Nat)
    (text : List Char) : value (fuel + 1) depth (gap ++ text) = value (fuel + 1) depth text := by
  rw [value, value, skipSpace_append h]

/-! ## Numbers -/

/-- A number ends before the character. -/
def endsNumber (c : Char) : Bool := !c.isDigit && c ≠ '.' && c ≠ 'e' && c ≠ 'E'

theorem endsNumber_of_isSpace {c : Char} (h : isSpace c = true) : endsNumber c = true := by
  simp only [isSpace, Bool.or_eq_true, decide_eq_true_eq] at h
  rcases h with ((rfl | rfl) | rfl) | rfl <;> rfl

/-- A number ends before blanks and what a number ends before. -/
theorem endsNumber_of_gap {gap : List Char} (h : ∀ c ∈ gap, isSpace c = true) {c : Char}
    (hc : endsNumber c = true) (rest : List Char) :
    ∀ d ∈ (gap ++ c :: rest).head?, endsNumber d = true := by
  cases gap with
  | nil => simpa using hc
  | cons d gap => simpa using endsNumber_of_isSpace (h d List.mem_cons_self)

section

variable {negative : Bool} {n significand : Nat} {rest : List Char}

/-- A number ends where neither a fraction nor an exponent follows. -/
theorem integerEnd_eq (hrest : ∀ c ∈ rest.head?, endsNumber c = true) :
    integerEnd negative significand rest = .ok (integerValue negative significand, rest) := by
  cases rest with
  | nil => rfl
  | cons c rest =>
    have hc := hrest c rfl
    simp only [endsNumber, Bool.and_eq_true, decide_eq_true_eq] at hc
    rw [integerEnd]
    · rintro _ ⟨⟩
      exact absurd rfl hc.1.1.2
    · rintro _ ⟨⟩
      exact absurd rfl hc.1.2
    · rintro _ ⟨⟩
      exact absurd rfl hc.2

/-- Digits are read one by one while the number fits. -/
theorem integerRest_append {digits : List Char} (hdigits : ∀ c ∈ digits, c.isDigit = true)
    (hfits : Nat.ofDigitChars 10 digits significand ≤ greatestSignificand)
    (hrest : ∀ c ∈ rest.head?, endsNumber c = true) :
    integerRest negative significand (digits ++ rest) =
      .ok (integerValue negative (Nat.ofDigitChars 10 digits significand), rest) := by
  induction digits generalizing significand with
  | nil =>
    cases rest with
    | nil => rfl
    | cons c rest =>
      have hc := hrest c rfl
      simp only [endsNumber, Bool.and_eq_true, Bool.not_eq_true'] at hc
      rw [List.nil_append, integerRest, digit?, if_neg (by rw [hc.1.1.1]; decide)]
      exact integerEnd_eq hrest
  | cons c digits ih =>
    obtain ⟨hc, hdigits⟩ := List.forall_mem_cons.1 hdigits
    rw [Nat.ofDigitChars_cons, Nat.mul_comm] at hfits ⊢
    -- The number only grows with each digit, so it has fitted all along.
    have hgrows : significand * 10 + (c.toNat - '0'.toNat) ≤ greatestSignificand := by
      refine Nat.le_trans ?_ hfits
      rw [Nat.ofDigitChars_eq_ofDigitChars_zero]
      exact Nat.le_add_right_of_le (Nat.le_mul_of_pos_left _ (Nat.pow_pos (by decide)))
    have hover : overflows significand (c.toNat - '0'.toNat) = false :=
      decide_eq_false (Nat.not_lt.2 hgrows)
    rw [List.cons_append, integerRest, digit?, if_pos hc]
    simp only [hover]
    exact ih hdigits hfits

/-- A numeral of 64 bits is read to its end, and not past it. -/
theorem number_decimalChars (hn : n < word64) (hrest : ∀ c ∈ rest.head?, endsNumber c = true) :
    number negative (decimalChars n ++ rest) = .ok (integerValue negative n, rest) := by
  obtain ⟨c, digits, hdigits, hall, hzero⟩ := decimalChars_eq_cons n
  obtain ⟨hc, hall⟩ := List.forall_mem_cons.1 hall
  by_cases hfirst : c = '0'
  · obtain ⟨rfl, rfl⟩ := hzero hfirst
    rw [hdigits, hfirst, List.singleton_append]
    cases rest with
    | nil => rfl
    | cons d rest =>
      have hd := hrest d rfl
      simp only [endsNumber, Bool.and_eq_true, Bool.not_eq_true'] at hd
      simp only [number, hd.1.1.1]
      exact integerEnd_eq hrest
  · have hvalue : Nat.ofDigitChars 10 digits (c.toNat - '0'.toNat) = n := by
      have hread := Nat.ofDigitChars_ten_toDigits (n := n)
      rwa [← decimalChars, hdigits, Nat.ofDigitChars_cons, Nat.mul_zero, Nat.zero_add] at hread
    rw [hdigits, List.cons_append, number]
    · simp only [digit?, if_pos hc]
      rw [integerRest_append hall (by rw [hvalue]; exact Nat.le_pred_of_lt hn) hrest, hvalue]
    · exact fun h => hfirst h

end

theorem isSpace_of_isDigit {c : Char} (h : c.isDigit = true) : isSpace c = false := by
  rw [Bool.eq_false_iff]
  intro hspace
  have hends := endsNumber_of_isSpace hspace
  rw [endsNumber, h] at hends
  cases hends

/-- A value that begins with a digit is a number. -/
theorem value_digit {c : Char} (hc : c.isDigit = true) (fuel depth : Nat) (rest : List Char) :
    value (fuel + 1) depth (c :: rest) = number false (c :: rest) := by
  rw [value, skipSpace_cons (isSpace_of_isDigit hc)]
  split
  all_goals rename_i heq
  all_goals cases heq
  case h_9 => exact if_pos hc
  -- No character that begins another value is a digit.
  all_goals exact absurd hc (by decide)

/-- A whole number is written as a numeral, with a sign in front of a negative one. -/
theorem toList_scalar_int (n : Int) :
    (scalar (.int n)).toList =
      if n < 0 then '-' :: decimalChars n.natAbs else decimalChars n.natAbs := by
  simp only [scalar, signedDecimal, decimal]
  split <;> simp

/-- A whole number. -/
theorem value_int {n : Int} (hn : Int64.minValue.toInt ≤ n ∧ n < word64) (fuel depth : Nat)
    {rest : List Char} (hrest : ∀ c ∈ rest.head?, endsNumber c = true) :
    value (fuel + 1) depth ((scalar (.int n)).toList ++ rest) = .ok (.int n, rest) := by
  have hmin : Int64.minValue.toInt = -9223372036854775808 := by decide
  have hword : word64 = 18446744073709551616 := rfl
  rw [hmin, hword] at hn
  rw [toList_scalar_int]
  split
  · rw [List.cons_append, value, skipSpace_cons rfl]
    show number true _ = _
    rw [number_decimalChars (by omega) hrest, integerValue, if_pos rfl, if_neg (by omega),
      Int.ofNat_natAbs_of_nonpos (by omega), Int.neg_neg]
  · have hnumber : number false (decimalChars n.natAbs ++ rest) = .ok (.int n, rest) := by
      rw [number_decimalChars (by omega) hrest, integerValue, if_neg Bool.false_ne_true,
        Int.natAbs_of_nonneg (by omega)]
    obtain ⟨c, digits, hdigits, hall, -⟩ := decimalChars_eq_cons n.natAbs
    rw [hdigits, List.cons_append] at hnumber ⊢
    rw [value_digit (hall c List.mem_cons_self), hnumber]

/-! ## Strings, arrays and objects -/

/-- A string as a value. -/
theorem value_string (fuel depth : Nat) (text rest : List Char) :
    value (fuel + 1) depth ('"' :: (escape text ++ '"' :: rest)) =
      .ok (.string (String.ofList text), rest) := by
  rw [value, skipSpace_cons rfl]
  simp only [stringRest_escape, ok_bind]
  rfl

/-- A text begins with an item: neither with a blank nor with the end of an array. -/
def BeginsItem (text : List Char) : Prop :=
  ∃ c rest, text = c :: rest ∧ isSpace c = false ∧ c ≠ ']'

section

variable {fuel depth : Nat} {gap text after : List Char} {item : Value}

/-- An array with an item. -/
theorem value_bracket (hdepth : 1 < depth) (hgap : ∀ c ∈ gap, isSpace c = true)
    (htext : BeginsItem text) :
    value (fuel + 1) depth ('[' :: (gap ++ text)) = items fuel (depth - 1) [] text := by
  obtain ⟨c, rest, rfl, hc, hclose⟩ := htext
  rw [value, skipSpace_cons rfl]
  simp only [if_neg (Nat.not_le.2 hdepth), skipSpace_append hgap, skipSpace_cons hc]
  split
  · rename_i heq
    cases heq
  · rename_i heq
    cases heq
    exact absurd rfl hclose
  · rfl

/-- An object with a field. -/
theorem value_brace (hdepth : 1 < depth) (hgap : ∀ c ∈ gap, isSpace c = true) :
    value (fuel + 1) depth ('\x7b' :: (gap ++ '"' :: text)) =
      fields fuel (depth - 1) [] text := by
  rw [value, skipSpace_cons rfl]
  simp only [if_neg (Nat.not_le.2 hdepth), skipSpace_append hgap,
    skipSpace_cons (show isSpace '"' = false from rfl)]

/-- The last item of an array. -/
theorem items_bracket {done : List Value} (hgap : ∀ c ∈ gap, isSpace c = true)
    (hvalue : value fuel depth text = .ok (item, gap ++ ']' :: after)) :
    items (fuel + 1) depth done text = .ok (.array (done.reverse ++ [item]), after) := by
  rw [items, hvalue, ok_bind]
  simp only [skipSpace_append hgap, skipSpace_cons (show isSpace ']' = false from rfl),
    List.reverse_cons]
  rfl

/-- An item with another one behind it. -/
theorem items_comma {done : List Value} (hgap : ∀ c ∈ gap, isSpace c = true)
    (hafter : BeginsItem after)
    (hvalue : value fuel depth text = .ok (item, ',' :: (gap ++ after))) :
    items (fuel + 1) depth done text = items fuel depth (item :: done) after := by
  obtain ⟨c, rest, rfl, hc, hclose⟩ := hafter
  rw [items, hvalue, ok_bind]
  simp only [skipSpace_cons (show isSpace ',' = false from rfl), skipSpace_append hgap,
    skipSpace_cons hc]
  split
  · rename_i heq
    cases heq
  · rename_i heq
    cases heq
    exact absurd rfl hclose
  · rfl

/-- The last field of an object. -/
theorem fields_brace {done : List (String × Value)} (key : String)
    (hgap : ∀ c ∈ gap, isSpace c = true)
    (hvalue : value fuel depth text = .ok (item, gap ++ '\x7d' :: after)) :
    fields (fuel + 1) depth done (escape key.toList ++ '"' :: ':' :: text) =
      .ok (.object (Value.insertField key item done), after) := by
  rw [fields, stringRest_escape, ok_bind]
  simp only [skipSpace_cons (show isSpace ':' = false from rfl), hvalue, ok_bind,
    skipSpace_append hgap, skipSpace_cons (show isSpace '\x7d' = false from rfl),
    List.reverse_nil, List.nil_append, String.ofList_toList]
  rfl

/-- A field with another one behind it. -/
theorem fields_comma {done : List (String × Value)} (key : String)
    (hgap : ∀ c ∈ gap, isSpace c = true)
    (hvalue : value fuel depth text = .ok (item, ',' :: (gap ++ '"' :: after))) :
    fields (fuel + 1) depth done (escape key.toList ++ '"' :: ':' :: text) =
      fields fuel depth (Value.insertField key item done) after := by
  rw [fields, stringRest_escape, ok_bind]
  simp only [skipSpace_cons (show isSpace ':' = false from rfl), hvalue, ok_bind,
    skipSpace_append hgap, skipSpace_cons (show isSpace ',' = false from rfl),
    skipSpace_cons (show isSpace '"' = false from rfl), List.reverse_nil, List.nil_append,
    String.ofList_toList]

end

/-! ## Values -/

namespace Layout

variable (l : Layout)

/-- A value is an item of an array, whatever follows it. -/
theorem beginsItem_chars {depth : Nat} (level : Nat) {v : Value} (h : v.Exact depth)
    (rest : List Char) : BeginsItem (l.chars level v ++ rest) := by
  cases v with
  | int n =>
    have hchars : l.chars level (.int n) = (scalar (.int n)).toList := rfl
    rw [hchars, toList_scalar_int]
    split
    · exact ⟨_, _, rfl, rfl, by decide⟩
    · obtain ⟨c, digits, hdigits, hall, -⟩ := decimalChars_eq_cons n.natAbs
      have hc := hall c List.mem_cons_self
      rw [hdigits]
      refine ⟨c, digits ++ rest, rfl, isSpace_of_isDigit hc, ?_⟩
      rintro rfl
      cases hc
  | float x => exact h.elim
  | bool b => cases b <;> exact ⟨_, _, rfl, rfl, by decide⟩
  | array items => cases items <;> exact ⟨_, _, rfl, rfl, by decide⟩
  | object fields => cases fields <;> exact ⟨_, _, rfl, rfl, by decide⟩
  | null => exact ⟨_, _, rfl, rfl, by decide⟩
  | string s => exact ⟨_, _, rfl, rfl, by decide⟩

theorem length_chars_pos {depth : Nat} (level : Nat) {v : Value} (h : v.Exact depth) :
    0 < (l.chars level v).length := by
  obtain ⟨c, text, hchars, -⟩ := l.beginsItem_chars level h []
  rw [List.append_nil] at hchars
  rw [hchars]
  exact Nat.succ_pos _

theorem length_itemsRest_pos (level : Nat) (items : List Value) :
    0 < (l.itemsRest level items).length := by
  cases items <;> simp [itemsRest]

theorem length_fieldsRest_pos (level : Nat) (fields : List (String × Value)) :
    0 < (l.fieldsRest level fields).length := by
  cases fields <;> simp [fieldsRest]

/-- A number may stand in front of the next item or the end of the array. -/
theorem endsNumber_itemsRest (level : Nat) (items : List Value) (rest : List Char) :
    ∀ c ∈ (l.itemsRest level items ++ rest).head?, endsNumber c = true := by
  cases items with
  | nil =>
    rw [itemsRest, List.append_assoc, List.singleton_append]
    exact endsNumber_of_gap (l.isSpace_gap level) rfl rest
  | cons item items =>
    rintro _ ⟨⟩
    rfl

/-- A number may stand in front of the next field or the end of the object. -/
theorem endsNumber_fieldsRest (level : Nat) (fields : List (String × Value)) (rest : List Char) :
    ∀ c ∈ (l.fieldsRest level fields ++ rest).head?, endsNumber c = true := by
  cases fields with
  | nil =>
    rw [fieldsRest, List.append_assoc, List.singleton_append]
    exact endsNumber_of_gap (l.isSpace_gap level) rfl rest
  | cons field fields =>
    rintro _ ⟨⟩
    rfl

mutual

/--
A value is read to its end, with the fields of its objects in order. The length of
its text is fuel enough, as each call for a part of it has passed a character.
-/
theorem value_chars : ∀ (v : Value) (level fuel depth : Nat) (rest : List Char),
    v.Exact depth → (l.chars level v).length ≤ fuel →
    (∀ c ∈ rest.head?, endsNumber c = true) →
    value fuel depth (l.chars level v ++ rest) = .ok (v.sorted, rest)
  | v, level, 0, depth, rest, hexact, hfuel, _ => by
    exact absurd hfuel (Nat.not_le.2 (l.length_chars_pos level hexact))
  | .null, level, fuel + 1, depth, rest, _, _, _ => by
    simp [chars, scalar, value, skipSpace_cons, isSpace, wordRest, Value.sorted]
  | .bool b, level, fuel + 1, depth, rest, _, _, _ => by
    cases b <;> simp [chars, scalar, value, skipSpace_cons, isSpace, wordRest, Value.sorted]
  | .int n, level, fuel + 1, depth, rest, hexact, _, hrest => by
    exact value_int hexact fuel depth hrest
  | .float _, _, _ + 1, _, _, hexact, _, _ => hexact.elim
  | .string s, level, fuel + 1, depth, rest, _, _, _ => by
    rw [chars, List.cons_append, List.append_assoc, List.singleton_append, value_string,
      String.ofList_toList]
    rfl
  | .array [], level, fuel + 1, depth, rest, hexact, _, _ => by
    simp [chars, value, skipSpace_cons, isSpace, Nat.not_le.2 hexact.1, Value.sorted,
      Value.sortedItems]
  | .array (item :: items), level, fuel + 1, depth, rest, ⟨hdepth, hitem, hitems⟩, hfuel, _ => by
    have hpos := l.length_chars_pos (level + 1) hitem
    have hpos' := l.length_itemsRest_pos level items
    simp only [chars, List.length_cons, List.length_append] at hfuel
    obtain ⟨fuel, rfl⟩ : ∃ less, fuel = less + 1 := ⟨fuel - 1, by omega⟩
    have hvalue := value_chars item (level + 1) fuel (depth - 1) (l.itemsRest level items ++ rest)
      hitem (by omega) (l.endsNumber_itemsRest level items rest)
    rw [chars, List.cons_append, List.append_assoc, List.append_assoc,
      value_bracket hdepth (l.isSpace_gap _) (l.beginsItem_chars _ hitem _),
      items_of_value items level fuel (depth - 1) [] item.sorted _ rest hitems (by omega) hvalue]
    rfl
  | .object [], level, fuel + 1, depth, rest, hexact, _, _ => by
    simp [chars, value, skipSpace_cons, isSpace, Nat.not_le.2 hexact.1, Value.sorted,
      Value.sortedFields]
  | .object ((key, item) :: fields), level, fuel + 1, depth, rest, ⟨hdepth, hitem, hfields⟩,
      hfuel, _ => by
    have hpos := l.length_chars_pos (level + 1) hitem
    have hpos' := l.length_fieldsRest_pos level fields
    simp only [chars, List.length_cons, List.length_append] at hfuel
    obtain ⟨fuel, rfl⟩ : ∃ less, fuel = less + 2 := ⟨fuel - 2, by omega⟩
    have hvalue := value_chars item (level + 1) (fuel + 1) (depth - 1)
      (l.fieldsRest level fields ++ rest) hitem (by omega)
      (l.endsNumber_fieldsRest level fields rest)
    rw [← value_append l.isSpace_colon] at hvalue
    have hread := fields_of_value fields level (fuel + 1) (depth - 1) [] key item.sorted _ rest
      hfields (by omega) hvalue
    simp only [chars, List.cons_append, List.append_assoc]
    rw [value_brace hdepth (l.isSpace_gap _), hread]
    rfl

/-- When an item is read, the rest of its array is read to the end. -/
theorem items_of_value : ∀ (rest : List Value) (level fuel depth : Nat) (done : List Value)
    (item : Value) (text after : List Char),
    Value.ExactItems depth rest → (l.itemsRest level rest).length ≤ fuel →
    value fuel depth text = .ok (item, l.itemsRest level rest ++ after) →
    items (fuel + 1) depth done text =
      .ok (.array (done.reverse ++ item :: Value.sortedItems rest), after)
  | [], level, fuel, depth, done, item, text, after, _, _, hvalue => by
    rw [itemsRest, List.append_assoc] at hvalue
    exact items_bracket (l.isSpace_gap level) hvalue
  | next :: rest, level, fuel, depth, done, item, text, after, ⟨hnext, hrest⟩, hfuel, hvalue => by
    have hpos := l.length_chars_pos (level + 1) hnext
    simp only [itemsRest, List.length_cons, List.length_append] at hfuel
    obtain ⟨fuel, rfl⟩ : ∃ less, fuel = less + 1 := ⟨fuel - 1, by omega⟩
    rw [itemsRest, List.cons_append, List.append_assoc, List.append_assoc] at hvalue
    have hnextValue := value_chars next (level + 1) fuel depth (l.itemsRest level rest ++ after)
      hnext (by omega) (l.endsNumber_itemsRest level rest after)
    rw [items_comma (l.isSpace_gap _) (l.beginsItem_chars _ hnext _) hvalue,
      items_of_value rest level fuel depth (item :: done) next.sorted _ after hrest (by omega)
        hnextValue, List.reverse_cons, List.append_assoc]
    rfl

/-- When a field is read, the rest of its object is read to the end. -/
theorem fields_of_value : ∀ (rest : List (String × Value)) (level fuel depth : Nat)
    (done : List (String × Value)) (key : String) (item : Value) (text after : List Char),
    Value.ExactFields depth rest → (l.fieldsRest level rest).length ≤ fuel →
    value fuel depth text = .ok (item, l.fieldsRest level rest ++ after) →
    fields (fuel + 1) depth done (escape key.toList ++ '"' :: ':' :: text) =
      .ok (.object (Value.sortedFields (Value.insertField key item done) rest), after)
  | [], level, fuel, depth, done, key, item, text, after, _, _, hvalue => by
    rw [fieldsRest, List.append_assoc] at hvalue
    exact fields_brace key (l.isSpace_gap level) hvalue
  | (nextKey, next) :: rest, level, fuel, depth, done, key, item, text, after, ⟨hnext, hrest⟩,
      hfuel, hvalue => by
    have hpos := l.length_chars_pos (level + 1) hnext
    simp only [fieldsRest, List.length_cons, List.length_append] at hfuel
    obtain ⟨fuel, rfl⟩ : ∃ less, fuel = less + 2 := ⟨fuel - 2, by omega⟩
    simp only [fieldsRest, List.cons_append, List.append_assoc] at hvalue
    have hnextValue := value_chars next (level + 1) (fuel + 1) depth
      (l.fieldsRest level rest ++ after) hnext (by omega) (l.endsNumber_fieldsRest level rest after)
    rw [← value_append l.isSpace_colon] at hnextValue
    rw [fields_comma key (l.isSpace_gap _) hvalue]
    exact fields_of_value rest level (fuel + 1) depth (Value.insertField key item done) nextKey
      next.sorted _ after hrest (by omega) hnextValue

end

end Layout

/-- A text in a layout is read as its value, with the fields of each object in order. -/
theorem read_of_chars (l : Layout) (level : Nat) {v : Value} (h : v.Exact depthLimit)
    {text : String} (htext : text.toList = l.chars level v) : read text = .ok v.sorted := by
  have hvalue := l.value_chars v level (2 * text.toList.length + 2) depthLimit [] h
    (by rw [htext]; omega) nofun
  rw [List.append_nil, ← htext] at hvalue
  rw [read, readChars, hvalue]
  rfl

/-- The shortest text of a value is read as the value. -/
theorem read_compact {v : Value} (h : v.Exact depthLimit) : read (compact v) = .ok v.sorted :=
  read_of_chars .tight 0 h (toList_compact 0 v)

/-- The text of a value with one field a line is read as the value. -/
theorem read_pretty {v : Value} (h : v.Exact depthLimit) : read (pretty v) = .ok v.sorted :=
  read_of_chars .lines 0 h (toList_prettyAt 0 v)

end Json

end LinkedDocs
