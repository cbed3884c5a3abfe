import ProgramSupport.Printing.Writer

/-!
# The line-buffered console

Standard output keeps bytes back until a line is complete or the store for pending bytes is
full.  This file provides

* `Device` — what the bytes are delivered to, which works or fails with a text;
* `Console` — the bytes delivered so far, the pending ones, and the device;
* `Console.flush` — delivering what is pending;
* `Console.hold` — adding bytes to the pending ones, delivering first when the room runs out;
* `Console.writeAll` — writing up to the last newline at once and holding the rest.

Nothing that is delivered or pending is lost while the device works.  A device that fails takes
no byte, and what was pending stays so.
-/

namespace ProgramSupport

/-- What a console delivers its bytes to. -/
inductive Device where
  | working
  | failing (text : String)
deriving Repr, DecidableEq

/-- Standard output: bytes delivered, bytes pending, and the device they go to. -/
structure Console where
  delivered : List UInt8 := []
  pending : List UInt8 := []
  device : Device := .working
deriving Repr, DecidableEq

namespace Console

/-- How many bytes can be pending. -/
def room : Nat := 1024

/-- Hand bytes to the device, behind those delivered before. -/
def deliver (c : Console) (bytes : List UInt8) : Attempt Console :=
  match c.device with
  | .working => ⟨none, { c with delivered := c.delivered ++ bytes }⟩
  | .failing text => if bytes = [] then ⟨none, c⟩ else ⟨some text, c⟩

/-- Deliver what is pending. -/
def flush (c : Console) : Attempt Console :=
  match c.deliver c.pending with
  | ⟨none, c⟩ => ⟨none, { c with pending := [] }⟩
  | failed => failed

/-- Go on with the next step unless the attempt failed. -/
def andThen (a : Attempt Console) (next : Console → Attempt Console) : Attempt Console :=
  match a with
  | ⟨none, c⟩ => next c
  | failed => failed

/-- Add bytes to the pending ones.  What does not fit makes the pending bytes leave first, and
bytes that would fill the whole room are delivered without a stay. -/
def hold (c : Console) (bytes : List UInt8) : Attempt Console :=
  andThen (if room < c.pending.length + bytes.length then c.flush else ⟨none, c⟩) fun c =>
    if room ≤ bytes.length then c.deliver bytes
    else ⟨none, { c with pending := c.pending ++ bytes }⟩

/-- Write bytes up to and with their last newline, at once: they are delivered with all that is
pending. -/
def writeLines (c : Console) (bytes : List UInt8) : Attempt Console :=
  if c.pending = [] then c.deliver bytes
  else andThen (c.hold bytes) flush

/-- The bytes up to and with the last newline, and the bytes behind it. -/
def splitLines (bytes : List UInt8) : List UInt8 × List UInt8 :=
  let tail := (bytes.reverse.takeWhile (· ≠ Ascii.newline)).reverse
  (bytes.take (bytes.length - tail.length), tail)

/-- Write bytes.  Complete lines leave at once; a line that was completed and could not leave is
tried again before anything else. -/
def writeAll (c : Console) (bytes : List UInt8) : Attempt Console :=
  match splitLines bytes with
  | ([], tail) =>
    andThen (if c.pending.getLast? = some Ascii.newline then c.flush else ⟨none, c⟩) (·.hold tail)
  | (lines, tail) => andThen (c.writeLines lines) (·.hold tail)

instance : Writer Console := ⟨writeAll⟩

theorem splitLines_append (bytes : List UInt8) :
    (splitLines bytes).1 ++ (splitLines bytes).2 = bytes := by
  have h : ((bytes.reverse.takeWhile (· ≠ Ascii.newline)).reverse) <:+ bytes := by
    have := List.takeWhile_prefix (l := bytes.reverse) (fun b => decide (b ≠ Ascii.newline))
    simpa using List.reverse_suffix.2 this
  obtain ⟨lines, hl⟩ := h
  unfold splitLines
  simp only []
  generalize (bytes.reverse.takeWhile (· ≠ Ascii.newline)).reverse = tail at hl ⊢
  subst hl
  simp

end Console

end ProgramSupport
