/-!
# Text as bytes

The bytes of a text are those of its characters, one after the other. An ASCII
byte stands for its own character and occurs in no other.

* `fromUTF8?_utf8`: the bytes of a text are read as that text.
* `notMem_utf8EncodeChar`: an ASCII byte in the bytes of a character.
-/

namespace LinkedDocs

/-- The bytes of a list of characters. -/
def utf8 (text : List Char) : List UInt8 := text.flatMap String.utf8EncodeChar

@[simp] theorem utf8_nil : utf8 [] = [] := rfl

@[simp] theorem utf8_cons (c : Char) (text : List Char) :
    utf8 (c :: text) = String.utf8EncodeChar c ++ utf8 text := rfl

@[simp] theorem utf8_append (text text' : List Char) :
    utf8 (text ++ text') = utf8 text ++ utf8 text' :=
  List.flatMap_append

theorem toByteArray_utf8 (text : List Char) : (utf8 text).toByteArray = text.utf8Encode := rfl

/-- The bytes of a string are those of its characters. -/
theorem toByteArray_eq_utf8 (text : String) :
    text.toByteArray = (utf8 text.toList).toByteArray := by
  rw [toByteArray_utf8, ← String.toByteArray_ofList, String.ofList_toList]

theorem toList_data_toByteArray (text : String) :
    text.toByteArray.data.toList = utf8 text.toList := by
  rw [toByteArray_eq_utf8, List.toList_data_toByteArray]

/-- The bytes of a text are read as that text. -/
theorem fromUTF8?_utf8 (text : String) :
    String.fromUTF8? ⟨(utf8 text.toList).toArray⟩ = some text := by
  have hbytes : (⟨(utf8 text.toList).toArray⟩ : ByteArray) = text.toByteArray := by
    rw [toByteArray_eq_utf8]
    exact ByteArray.ext List.data_toByteArray.symm
  rw [hbytes, String.fromUTF8?, dif_pos text.isValidUTF8]
  exact congrArg some (String.toByteArray_inj.1 rfl)

/-! ## ASCII bytes -/

theorem utf8EncodeChar_ascii {c : Char} (h : c.toNat < 128) :
    String.utf8EncodeChar c = [UInt8.ofNat c.toNat] :=
  if_pos (Nat.le_of_lt_succ h)

/-- An ASCII byte occurs only in its own character. -/
theorem notMem_utf8EncodeChar {b : UInt8} (hb : b.toNat < 128) {c : Char} (h : c.toNat ≠ b.toNat) :
    b ∉ String.utf8EncodeChar c := by
  intro hmem
  by_cases hc : c.toNat < 128
  · rw [utf8EncodeChar_ascii hc, List.mem_singleton] at hmem
    rw [hmem, UInt8.toNat_ofNat'] at h
    omega
  -- Every byte of a longer encoding is at least 128.
  have hlarge : ∀ n, 128 ≤ n → n < 256 → b ≠ UInt8.ofNat n := by
    rintro n hn hn' rfl
    rw [UInt8.toNat_ofNat'] at hb
    omega
  have hval : ¬ c.val.toNat ≤ 127 := fun hle => hc (Nat.lt_succ_of_le hle)
  simp only [String.utf8EncodeChar, if_neg hval] at hmem
  split at hmem
  · simp only [List.mem_cons, List.not_mem_nil, or_false] at hmem
    rcases hmem with hmem | hmem <;> exact hlarge _ (by omega) (by omega) hmem
  split at hmem
  · simp only [List.mem_cons, List.not_mem_nil, or_false] at hmem
    rcases hmem with hmem | hmem | hmem <;> exact hlarge _ (by omega) (by omega) hmem
  · simp only [List.mem_cons, List.not_mem_nil, or_false] at hmem
    rcases hmem with hmem | hmem | hmem | hmem <;> exact hlarge _ (by omega) (by omega) hmem

/-- The length of a text in bytes is the number of its bytes. -/
theorem utf8ByteSize_eq (text : String) : text.utf8ByteSize = (utf8 text.toList).length := by
  rw [← toList_data_toByteArray, Array.length_toList]
  rfl

/-- A text has at least a byte for each character. -/
theorem length_le_utf8ByteSize (text : String) : text.length ≤ text.utf8ByteSize := by
  have hbytes : ∀ chars : List Char, chars.length ≤ (utf8 chars).length := by
    intro chars
    induction chars with
    | nil => exact Nat.le_refl _
    | cons c chars ih =>
      have := c.utf8Size_pos
      rw [utf8_cons, List.length_append, String.length_utf8EncodeChar, List.length_cons]
      omega
  rw [utf8ByteSize_eq, ← String.length_toList]
  exact hbytes text.toList

end LinkedDocs
