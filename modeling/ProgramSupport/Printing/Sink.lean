import ProgramSupport.Printing.Writer

/-!
# Sinks of bounded room

A sink accepts a bounded number of bytes in all, and perhaps a bounded number in one write.
Without room it fails with a text of its own, or accepts nothing, which ends the attempt to
write everything.  This file provides `Sink`, how many bytes one write accepts, and the writer
that writes until none is left.
-/

namespace ProgramSupport

/-- A writer with room for a bounded number of bytes. -/
structure Sink where
  /-- How many bytes are accepted from now on. -/
  room : Nat
  /-- How many bytes one write accepts at most, when there is a bound. -/
  chunk : Option Nat := none
  /-- The text of the failure when there is no room; nothing is accepted if there is none. -/
  failure : Option String := none
  accepted : List UInt8 := []
deriving Repr, DecidableEq

namespace Sink

/-- How many of `count` bytes one write accepts. -/
def share (s : Sink) (count : Nat) : Nat :=
  min (min count s.room) (s.chunk.getD count)

/-- Accept the first `count` of the bytes. -/
def accept (s : Sink) (bytes : List UInt8) (count : Nat) : Sink :=
  { s with room := s.room - count, accepted := s.accepted ++ bytes.take count }

/-- The text of the failure of a write that accepts nothing. -/
def refusal (s : Sink) : String :=
  if s.room = 0 then s.failure.getD "failed to write whole buffer"
  else "failed to write whole buffer"

/-- Write until no byte is left or a write accepts none. -/
def writeAll (s : Sink) (bytes : List UInt8) : Attempt Sink :=
  if bytes = [] then ⟨none, s⟩
  else
    let count := s.share bytes.length
    if count = 0 then ⟨some s.refusal, s⟩
    else writeAll (s.accept bytes count) (bytes.drop count)
termination_by bytes.length
decreasing_by
  have := List.length_pos_iff.2 ‹bytes ≠ []›
  simp only [List.length_drop]
  omega

instance : Writer Sink := ⟨writeAll⟩

end Sink

end ProgramSupport
