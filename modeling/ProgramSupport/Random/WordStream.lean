/-!
# Streams of random words

A source of randomness is an endless sequence of 32-bit words and a position in it.  This file
provides `WordStream`, the next word, the sequence that repeats a list, and the 64-bit number
that two words make.
-/

namespace ProgramSupport

/-- An endless sequence of words, read up to a position. -/
structure WordStream where
  word : Nat → UInt32
  position : Nat := 0

namespace WordStream

/-- The next word and the stream behind it. -/
def next (s : WordStream) : UInt32 × WordStream :=
  (s.word s.position, { s with position := s.position + 1 })

/-- The words of a list, again and again. -/
def cyclic (words : Array UInt32) : WordStream :=
  { word := fun i => words.getD (i % words.size) 0 }

end WordStream

/-- The number whose binary digits are those of one word and then those of another. -/
def joinWords (high low : UInt32) : UInt64 := high.toUInt64 <<< 32 ||| low.toUInt64

end ProgramSupport
