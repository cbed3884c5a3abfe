import ProgramSupport.Random.WordStream
import ProgramSupport.Violation

/-!
# Random integers of a range

An integer of a half-open range is drawn from two words: they make a 64-bit number, whose
remainder by the width of the range is added to its start.  This file provides `placeInRange`,
the arithmetic of it, and `WordStream.drawIn`, which takes the words and refuses an empty range
before it takes any.  What a range of at most one integer gives does not depend on the words.

The width of a range of machine integers is below `2 ^ 64`, so it fits into an unsigned word
although it need not fit into a signed one; the same holds of the remainder.
-/

namespace ProgramSupport

/-- The integer of the range from `start` to `stop` at the remainder of a number. -/
def placeInRange (start stop : Int64) (number : UInt64) : Int64 :=
  start + (number % (stop - start).toUInt64).toInt64

/-- Draw an integer of the range from `start` on and before `stop`. -/
def WordStream.drawIn (s : WordStream) (start stop : Int64) :
    Except Violation Int64 × WordStream :=
  if start < stop then
    let (high, s) := s.next
    let (low, s) := s.next
    (.ok (placeInRange start stop (joinWords high low)), s)
  else (.error (.emptyRandomRange start.toInt stop.toInt), s)

/-- A range that is not empty takes two words. -/
theorem WordStream.drawIn_eq (s : WordStream) {start stop : Int64} (h : start < stop) :
    s.drawIn start stop =
      (.ok (placeInRange start stop (joinWords (s.word s.position) (s.word (s.position + 1)))),
        { s with position := s.position + 2 }) := by
  rw [drawIn, if_pos h]
  rfl

/-- An empty range is refused before a word is taken. -/
theorem WordStream.drawIn_of_not_lt (s : WordStream) {start stop : Int64} (h : ¬ start < stop) :
    s.drawIn start stop = (.error (.emptyRandomRange start.toInt stop.toInt), s) :=
  if_neg h

/-- A range of one integer has it at every remainder. -/
theorem placeInRange_of_succ {start stop : Int64} (h : stop.toInt = start.toInt + 1)
    (number : UInt64) : placeInRange start stop number = start := by
  have hstop : stop = start + 1 := by
    rw [← Int64.ofInt_toInt stop, h, Int64.ofInt_add, Int64.ofInt_toInt]
    rfl
  have hwidth : stop - start = 1 := by
    rw [hstop, Int64.add_comm, Int64.add_sub_cancel]
  rw [placeInRange, hwidth]
  show start + (number % 1).toInt64 = start
  rw [UInt64.mod_one]
  exact Int64.add_zero start

/-- What a range of at most one integer gives does not depend on the words. -/
theorem WordStream.drawIn_of_narrow {start stop : Int64} (h : stop.toInt ≤ start.toInt + 1)
    (s t : WordStream) : (t.drawIn start stop).1 = (s.drawIn start stop).1 := by
  by_cases hrange : start < stop
  · have hbefore := Int64.lt_iff_toInt_lt.1 hrange
    have hsucc : stop.toInt = start.toInt + 1 := by omega
    rw [drawIn_eq s hrange, drawIn_eq t hrange, placeInRange_of_succ hsucc,
      placeInRange_of_succ hsucc]
  · rw [drawIn_of_not_lt s hrange, drawIn_of_not_lt t hrange]

end ProgramSupport
