import ProgramSupport.Random.WordStream

/-!
# The stream of a seed

Random words are the output of the ChaCha block function with eight rounds, block after block.
A block is made from four constant words, eight words of key, a 64-bit block number, and a
64-bit stream number, which is zero here.  This file provides

* `ChaCha.quarterRound`, `ChaCha.doubleRound` and `ChaCha.block`;
* `ChaCha.keyOfSeed` — eight words from a 64-bit seed, by a congruential generator whose
  states are permuted into words;
* `WordStream.ofSeed` — the stream that a seed starts.
-/

namespace ProgramSupport

namespace ChaCha

/-- The sixteen words that a block is computed from and in. -/
abbrev Words := Vector UInt32 16

def rotateLeft (x : UInt32) (count : UInt32) : UInt32 := x <<< count ||| x >>> (32 - count)

/-- Mix four of the words. -/
def quarterRound (w : Words) (a b c d : Fin 16) : Words :=
  let w := w.set a (w[a] + w[b])
  let w := w.set d (rotateLeft (w[d] ^^^ w[a]) 16)
  let w := w.set c (w[c] + w[d])
  let w := w.set b (rotateLeft (w[b] ^^^ w[c]) 12)
  let w := w.set a (w[a] + w[b])
  let w := w.set d (rotateLeft (w[d] ^^^ w[a]) 8)
  let w := w.set c (w[c] + w[d])
  w.set b (rotateLeft (w[b] ^^^ w[c]) 7)

/-- Mix the columns of the four by four square of words, then its diagonals. -/
def doubleRound (w : Words) : Words :=
  let w := quarterRound w 0 4 8 12
  let w := quarterRound w 1 5 9 13
  let w := quarterRound w 2 6 10 14
  let w := quarterRound w 3 7 11 15
  let w := quarterRound w 0 5 10 15
  let w := quarterRound w 1 6 11 12
  let w := quarterRound w 2 7 8 13
  quarterRound w 3 4 9 14

/-- The key of a stream. -/
abbrev Key := Vector UInt32 8

/-- The words from which a block of a stream is computed. -/
def initialWords (key : Key) (number : UInt64) : Words :=
  #v[0x61707865, 0x3320646e, 0x79622d32, 0x6b206574,
    key[0], key[1], key[2], key[3], key[4], key[5], key[6], key[7],
    number.toUInt32, (number >>> 32).toUInt32, 0, 0]

/-- A block: four double rounds, and the words that it began with added. -/
def block (key : Key) (number : UInt64) : Words :=
  let w := initialWords key number
  (Nat.repeat doubleRound 4 w).zipWith (· + ·) w

/-- A word of the stream of a key. -/
def word (key : Key) (i : Nat) : UInt32 :=
  (block key (UInt64.ofNat (i / 16))).get (Fin.ofNat 16 i)

/-! ### Keys -/

/-- One step of the congruential generator that stretches a seed. -/
def seedStep (state : UInt64) : UInt64 := state * 6364136223846793005 + 11634580027462260723

/-- The word that a state of the generator yields: its high bits, turned by the highest. -/
def seedWord (state : UInt64) : UInt32 :=
  let x := (((state >>> 18) ^^^ state) >>> 27).toUInt32
  let count := (state >>> 59).toUInt32
  x >>> count ||| x <<< ((32 - count) % 32)

/-- The key of a seed: the words of the next eight states. -/
def keyOfSeed (seed : UInt64) : Key :=
  Vector.ofFn fun i => seedWord (Nat.repeat seedStep (i.val + 1) seed)

end ChaCha

/-- The stream of a key. -/
def WordStream.ofKey (key : ChaCha.Key) : WordStream := { word := ChaCha.word key }

/-- The stream that a seed starts. -/
def WordStream.ofSeed (seed : UInt64) : WordStream := .ofKey (ChaCha.keyOfSeed seed)

end ProgramSupport
