import LinkedDocs.Random.Source

/-!
# Drawing values

A `Draw` takes words from a source and yields a value, or stops with a fault:
the source ran dry, an empty range was asked for, a date left the calendar, a
list would have too many members, or the work can never end.

* `within` and `within64` draw uniformly from an inclusive range with one word (or
  two), and one more only where the first product falls in the biased tail.
* `pick` chooses a place of a list; a list of one element still takes a word.
-/

namespace LinkedDocs.Random

/-- Why a draw yields no value. -/
inductive DrawFault where
  /-- The limit of the source was reached. -/
  | exhausted
  /-- A range with no member was to be sampled. -/
  | emptyRange
  /-- A date-time was moved past the end of the calendar. -/
  | dateOverflow
  /-- More values were asked for than a list can hold. -/
  | listTooLong
  /-- The rest of the computation takes no words and repeats for ever. -/
  | endless
  deriving DecidableEq, Repr

/-- A computation that takes words from a source. -/
abbrev Draw (σ : Type) := StateT (Source σ) (Except DrawFault)

namespace Draw

variable {σ : Type} [WordStream σ]

/-- Stops with a fault. -/
def stop {α : Type} (fault : DrawFault) : Draw σ α := fun _ => .error fault

/-- Takes one word. -/
def word : Draw σ Nat := fun s =>
  match s.next? with
  | some (w, t) => .ok (w.toNat, t)
  | none => .error .exhausted

/-- Takes two words; the first is the low half. -/
def doubleWord : Draw σ Nat := do
  let low ← word
  let high ← word
  return low + high * UInt32.size

/--
A uniform number between `low` and `high`, both included, by multiplication of a
draw of one of `values` numbers with the size of the range. The product divided
by `values` is the offset; when the remainder lies within the last `size`
values, a second draw decides whether a carry reaches the offset. A range of
`values` numbers takes the draw as it is.
-/
def uniform (values : Nat) (draw : Draw σ Nat) (low high : Nat) : Draw σ Nat := do
  if high < low then
    stop .emptyRange
  else
    let size := (high - low + 1) % values
    let first ← draw
    if size = 0 then
      return first
    else
      let product := first * size
      let offset := product / values
      let rest := product % values
      if values - size < rest then
        let second ← draw
        let carry := rest + second * size / values
        return low + offset + (if values ≤ carry then 1 else 0)
      else
        return low + offset

/-- A uniform number of an inclusive range of 32-bit numbers. -/
def within (low high : Nat) : Draw σ Nat := uniform UInt32.size word low high

/-- A uniform number of an inclusive range of 64-bit numbers. -/
def within64 (low high : Nat) : Draw σ Nat := uniform UInt64.size doubleWord low high

/-- A uniform place of a list of `size` members; only a long list takes 64-bit numbers. -/
def placeBelow (size : Nat) : Draw σ Nat :=
  if size < UInt32.size then within 0 (size - 1) else within64 0 (size - 1)

/-- A uniform member of a list, or `other` (taking no word) if the list is empty. -/
def pick {α : Type} (items : Array α) (other : α) : Draw σ α :=
  if items.isEmpty then return other
  else do
    let place ← placeBelow items.size
    return items.getD place other

/-- `n` values drawn one after the other, behind those of `done`, which holds the last first. -/
def timesOnto {α : Type} (draw : Draw σ α) (done : List α) (n : Nat) : Draw σ (List α) := fun s =>
  match n with
  | 0 => .ok (done.reverse, s)
  | n + 1 =>
    match draw s with
    | .error fault => .error fault
    | .ok (next, t) => timesOnto draw (next :: done) n t

/-- `n` values drawn one after the other. -/
def times {α : Type} (draw : Draw σ α) (n : Nat) : Draw σ (List α) := timesOnto draw [] n

end Draw

end LinkedDocs.Random
