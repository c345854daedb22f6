/-!
# Sources of random words

Everything random is drawn from a stream of 32-bit words. A stream never ends
by itself; a `Source` lets at most `limit` words be taken from it and counts
those taken, so that every consumer has a measure that falls with each draw.

* `Source.next?_remaining`: a draw uses up one word.
-/

namespace LinkedDocs.Random

/-- A stream of 32-bit words: its next word and the stream after it. -/
class WordStream (σ : Type) where
  next : σ → UInt32 × σ

/-- A stream of which at most `limit` words may be taken, `drawn` of them already have. -/
structure Source (σ : Type) where
  stream : σ
  limit : Nat
  drawn : Nat := 0

namespace Source

variable {σ : Type}

/-- The number of words that may still be taken. -/
def remaining (s : Source σ) : Nat := s.limit - s.drawn

/-- Takes the next word, if the limit allows one more. -/
def next? [WordStream σ] (s : Source σ) : Option (UInt32 × Source σ) :=
  if s.drawn < s.limit then
    let (word, stream) := WordStream.next s.stream
    some (word, { s with stream, drawn := s.drawn + 1 })
  else
    none

/-- A draw leaves one word fewer. -/
theorem next?_remaining [WordStream σ] {s t : Source σ} {w : UInt32} (h : s.next? = some (w, t)) :
    t.remaining + 1 = s.remaining := by
  unfold next? at h
  split at h
  · simp only [Option.some.injEq, Prod.mk.injEq] at h
    rw [← h.2]
    simp only [remaining]
    omega
  · simp at h

/-- Nothing is drawn once the limit is reached. -/
theorem next?_eq_none_iff [WordStream σ] {s : Source σ} :
    s.next? = none ↔ s.remaining = 0 := by
  unfold next? remaining
  split <;> simp <;> omega

end Source

/-- A written list of words, read from its first word and repeated without end. -/
structure Script where
  words : Array UInt32
  place : Nat := 0

instance : WordStream Script where
  next s := (s.words.getD (s.place % s.words.size) 0, { s with place := s.place + 1 })

end LinkedDocs.Random
