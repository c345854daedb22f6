import LinkedDocs.Json.Printer
import LinkedDocs.Json.Reader

/-!
# Layouts of JSON

The two printers write the same characters, but for the blanks between them. A
layout says which blanks these are, so that what the reader makes of a text is
told once for all layouts.

* `Layout.chars`: the text of a value in a layout.
* `toList_compact`, `toList_prettyAt`: the layouts of the two printers.
-/

namespace LinkedDocs.Json

/-- The blanks of a text: at the line breaks of each level, and behind a colon. -/
structure Layout where
  gap : Nat → List Char
  colon : List Char
  isSpace_gap : ∀ level, ∀ c ∈ gap level, isSpace c = true
  isSpace_colon : ∀ c ∈ colon, isSpace c = true

namespace Layout

/-- No blanks at all. -/
def tight : Layout where
  gap _ := []
  colon := []
  isSpace_gap := by simp
  isSpace_colon := by simp

/-- One field or item a line, with two spaces a level. -/
def lines : Layout where
  gap level := '\n' :: List.replicate (2 * level) ' '
  colon := [' ']
  isSpace_gap := by
    intro level c hc
    rcases List.mem_cons.1 hc with rfl | hc
    · rfl
    · rw [(List.mem_replicate.1 hc).2]
      rfl
  isSpace_colon := by
    intro c hc
    rw [List.mem_singleton.1 hc]
    rfl

mutual

/-- The characters of a value inside `level` levels. -/
def chars (l : Layout) (level : Nat) : Value → List Char
  | .string s => '"' :: (escape s.toList ++ ['"'])
  | .array [] => ['[', ']']
  | .array (item :: rest) =>
    '[' :: (l.gap (level + 1) ++ (l.chars (level + 1) item ++ l.itemsRest level rest))
  | .object [] => ['\x7b', '\x7d']
  | .object ((key, item) :: rest) =>
    '\x7b' :: (l.gap (level + 1) ++ '"' :: (escape key.toList ++ '"' :: ':' :: (l.colon ++
      (l.chars (level + 1) item ++ l.fieldsRest level rest))))
  | value => (scalar value).toList

/-- The characters from the end of an item to the end of its array. -/
def itemsRest (l : Layout) (level : Nat) : List Value → List Char
  | [] => l.gap level ++ [']']
  | item :: rest =>
    ',' :: (l.gap (level + 1) ++ (l.chars (level + 1) item ++ l.itemsRest level rest))

/-- The characters from the end of a field to the end of its object. -/
def fieldsRest (l : Layout) (level : Nat) : List (String × Value) → List Char
  | [] => l.gap level ++ ['\x7d']
  | (key, item) :: rest =>
    ',' :: (l.gap (level + 1) ++ '"' :: (escape key.toList ++ '"' :: ':' :: (l.colon ++
      (l.chars (level + 1) item ++ l.fieldsRest level rest))))

end

end Layout

/-- A text behind a first one, each with a comma in front. -/
theorem intercalate_comma (first : List Char) (texts : List (List Char)) :
    [','].intercalate (first :: texts) = first ++ texts.flatMap (',' :: ·) := by
  induction texts generalizing first with
  | nil => simp
  | cons second texts ih =>
    rw [List.intercalate_cons_cons, ih, List.flatMap_cons]
    simp

namespace Layout

@[simp] theorem tight_gap (level : Nat) : tight.gap level = [] := rfl

@[simp] theorem tight_colon : tight.colon = [] := rfl

@[simp] theorem lines_gap (level : Nat) : lines.gap level = (lineBreak level).toList := by
  simp [lines, lineBreak]

@[simp] theorem lines_colon : lines.colon = [' '] := rfl

end Layout

mutual

/-- The shortest layout has no blanks. -/
theorem toList_compact (level : Nat) : ∀ v : Value,
    (compact v).toList = Layout.tight.chars level v
  | .null => by simp [compact, Layout.chars]
  | .bool _ => by simp [compact, Layout.chars]
  | .int _ => by simp [compact, Layout.chars]
  | .float _ => by simp [compact, Layout.chars]
  | .string s => by simp [compact, quote, Layout.chars]
  | .array [] => by simp [compact, compactItems, Layout.chars]
  | .array (item :: rest) => by
    simp [compact, compactItems, Layout.chars, intercalate_comma, toList_compact (level + 1) item,
      toList_compactItems level rest]
  | .object [] => by simp [compact, compactFields, Layout.chars]
  | .object ((key, item) :: rest) => by
    simp [compact, compactFields, quote, Layout.chars, intercalate_comma,
      toList_compact (level + 1) item, toList_compactFields level rest]

/-- The items behind the first in compact text are those of the tight layout. -/
theorem toList_compactItems (level : Nat) : ∀ items : List Value,
    ((compactItems items).map String.toList).flatMap (',' :: ·) ++ [']'] =
      Layout.tight.itemsRest level items
  | [] => by simp [compactItems, Layout.itemsRest]
  | item :: rest => by
    simp [compactItems, Layout.itemsRest, toList_compact (level + 1) item,
      toList_compactItems level rest]

/-- The fields behind the first in compact text are those of the tight layout. -/
theorem toList_compactFields (level : Nat) : ∀ fields : List (String × Value),
    ((compactFields fields).map String.toList).flatMap (',' :: ·) ++ ['\x7d'] =
      Layout.tight.fieldsRest level fields
  | [] => by simp [compactFields, Layout.fieldsRest]
  | (key, item) :: rest => by
    simp [compactFields, quote, Layout.fieldsRest, toList_compact (level + 1) item,
      toList_compactFields level rest]

end

mutual

/-- The layout of one field a line has its line breaks and a space behind each colon. -/
theorem toList_prettyAt (level : Nat) : ∀ v : Value,
    (prettyAt level v).toList = Layout.lines.chars level v
  | .null => by simp [prettyAt, Layout.chars]
  | .bool _ => by simp [prettyAt, Layout.chars]
  | .int _ => by simp [prettyAt, Layout.chars]
  | .float _ => by simp [prettyAt, Layout.chars]
  | .string s => by simp [prettyAt, quote, Layout.chars]
  | .array [] => by simp [prettyAt, Layout.chars]
  | .array (item :: rest) => by
    simp [prettyAt, prettyItems, Layout.chars, intercalate_comma, toList_prettyAt (level + 1) item,
      toList_prettyItems level rest]
  | .object [] => by simp [prettyAt, Layout.chars]
  | .object ((key, item) :: rest) => by
    simp [prettyAt, prettyFields, quote, Layout.chars, intercalate_comma,
      toList_prettyAt (level + 1) item, toList_prettyFields level rest]

/-- The items behind the first over many lines are those of that layout. -/
theorem toList_prettyItems (level : Nat) : ∀ items : List Value,
    ((prettyItems (level + 1) items).map String.toList).flatMap (',' :: ·) ++
        ((lineBreak level).toList ++ [']']) = Layout.lines.itemsRest level items
  | [] => by simp [prettyItems, Layout.itemsRest]
  | item :: rest => by
    simp [prettyItems, Layout.itemsRest, toList_prettyAt (level + 1) item,
      toList_prettyItems level rest]

/-- The fields behind the first over many lines are those of that layout. -/
theorem toList_prettyFields (level : Nat) : ∀ fields : List (String × Value),
    ((prettyFields (level + 1) fields).map String.toList).flatMap (',' :: ·) ++
        ((lineBreak level).toList ++ ['\x7d']) = Layout.lines.fieldsRest level fields
  | [] => by simp [prettyFields, Layout.fieldsRest]
  | (key, item) :: rest => by
    simp [prettyFields, quote, Layout.fieldsRest, toList_prettyAt (level + 1) item,
      toList_prettyFields level rest]

end

end LinkedDocs.Json
