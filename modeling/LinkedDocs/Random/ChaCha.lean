import LinkedDocs.Random.Source

/-!
# The seeded stream

The key stream of ChaCha with eight rounds: a 64-bit block counter from zero, a
zero nonce, and sixteen words a block, taken in order. A 64-bit seed is spread
over the eight words of the key by a permuted congruential generator.

* `Stream.seeded s` is the stream of seed `s`.
* `period` is the number of words before the block counter returns to zero.
-/

namespace LinkedDocs.Random.ChaCha

/-- The sixteen words of a block. -/
abbrev Block := Vector UInt32 16

/-- The four words that open every block's input. -/
def constants : Vector UInt32 4 := #v[0x61707865, 0x3320646e, 0x79622d32, 0x6b206574]

/-- Rotation to the left. -/
def rotate (x : UInt32) (n : UInt32) : UInt32 := (x <<< n) ||| (x >>> (32 - n))

/-- One quarter round on the words at four places. -/
def quarterRound (v : Block) (a b c d : Fin 16) : Block :=
  let va := v[a] + v[b]
  let vd := rotate (v[d] ^^^ va) 16
  let vc := v[c] + vd
  let vb := rotate (v[b] ^^^ vc) 12
  let va := va + vb
  let vd := rotate (vd ^^^ va) 8
  let vc := vc + vd
  let vb := rotate (vb ^^^ vc) 7
  ((((v.set a va).set b vb).set c vc).set d vd)

/-- Two rounds: the four columns, then the four diagonals. -/
def doubleRound (v : Block) : Block :=
  let v := quarterRound v 0 4 8 12
  let v := quarterRound v 1 5 9 13
  let v := quarterRound v 2 6 10 14
  let v := quarterRound v 3 7 11 15
  let v := quarterRound v 0 5 10 15
  let v := quarterRound v 1 6 11 12
  let v := quarterRound v 2 7 8 13
  quarterRound v 3 4 9 14

/-- The input of block `counter`: constants, key, counter and a zero nonce. -/
def input (key : Vector UInt32 8) (counter : UInt64) : Block :=
  #v[constants[0], constants[1], constants[2], constants[3],
    key[0], key[1], key[2], key[3], key[4], key[5], key[6], key[7],
    counter.toUInt32, (counter >>> 32).toUInt32, 0, 0]

/-- Block `counter` of the key stream: eight rounds, added to the input. -/
def block (key : Vector UInt32 8) (counter : UInt64) : Block :=
  let start := input key counter
  (Nat.repeat doubleRound 4 start).zipWith (· + ·) start

/-- The number of words before the block counter returns to zero. -/
def period : Nat := 16 * UInt64.size

/-- A place in a key stream: the current block and how many of its words are taken. -/
structure Stream where
  key : Vector UInt32 8
  counter : UInt64
  current : Block
  taken : Nat

namespace Stream

/-- The key stream of `key` from its first word. -/
def ofKey (key : Vector UInt32 8) : Stream :=
  { key, counter := 0, current := block key 0, taken := 0 }

/-- The next word; a new block is made when the current one is used up. -/
def next (s : Stream) : UInt32 × Stream :=
  if h : s.taken < 16 then
    (s.current[s.taken], { s with taken := s.taken + 1 })
  else
    let counter := s.counter + 1
    let current := block s.key counter
    (current[0], { s with counter, current, taken := 1 })

instance : WordStream Stream := ⟨next⟩

/-- One step of the generator that spreads a seed: its new state and its output. -/
def spread (state : UInt64) : UInt32 × UInt64 :=
  let state := state * 6364136223846793005 + 11634580027462260723
  let shifted := (((state >>> 18) ^^^ state) >>> 27).toUInt32
  let turn := (state >>> 59).toUInt32
  ((shifted >>> turn) ||| (shifted <<< ((32 - turn) % 32)), state)

/-- The first `n` words spread from `state`. -/
def spreadWords : Nat → UInt64 → List UInt32
  | 0, _ => []
  | n + 1, state =>
    let (word, state) := spread state
    word :: spreadWords n state

/-- The key of a seed. -/
def keyOfSeed (seed : UInt64) : Vector UInt32 8 :=
  let words := (spreadWords 8 seed).toArray
  Vector.ofFn fun i => words.getD i 0

/-- The stream of a seed. -/
def seeded (seed : Nat) : Stream := ofKey (keyOfSeed (UInt64.ofNat seed))

end Stream

end LinkedDocs.Random.ChaCha
