import ProgramSupport.Printing.Printable

/-!
# Writers

A writer takes bytes until it fails.  This file provides

* `Writer` — what it takes to be one: a state that a list of bytes is written to as a whole;
* `Writer.writePieces` — writing pieces in order, up to the first failure;
* `Writer.print` — printing a value, where a failure is a violation of the operation `print`;
* `List UInt8` as the writer that never fails.
-/

namespace ProgramSupport

/-- The state of a writer after an attempt, and the text of its failure if it failed. -/
structure Attempt (ω : Type) where
  failure : Option String
  writer : ω
deriving Repr, DecidableEq

/-- A type of writers. -/
class Writer (ω : Type) where
  /-- Write all of the bytes, or fail after some of them. -/
  writeAll : ω → List UInt8 → Attempt ω

namespace Writer

variable {ω : Type} [Writer ω]

/-- Write pieces one after another; the first failure is the last attempt. -/
def writePieces (writer : ω) : List (List UInt8) → Attempt ω
  | [] => ⟨none, writer⟩
  | piece :: pieces =>
    match writeAll writer piece with
    | ⟨some text, writer⟩ => ⟨some text, writer⟩
    | ⟨none, writer⟩ => writePieces writer pieces

/-- Print a value, with a newline behind it if one is wanted. -/
def print (writer : ω) (value : Printable) (newline : Bool) : Except Violation Unit × ω :=
  match writePieces writer (value.linePieces newline) with
  | ⟨some text, writer⟩ => (.error (.io "print" text), writer)
  | ⟨none, writer⟩ => (.ok (), writer)

end Writer

/-- A list takes all bytes behind those that it has. -/
instance : Writer (List UInt8) := ⟨fun written bytes => ⟨none, written ++ bytes⟩⟩

theorem writePieces_list (written : List UInt8) (pieces : List (List UInt8)) :
    Writer.writePieces written pieces = ⟨none, written ++ pieces.flatten⟩ := by
  induction pieces generalizing written with
  | nil => simp [Writer.writePieces]
  | cons piece pieces ih =>
    show Writer.writePieces (written ++ piece) pieces = _
    rw [ih]
    simp

/-- Printed to a list, a value adds its whole text. -/
theorem print_list (written : List UInt8) (value : Printable) (newline : Bool) :
    Writer.print written value newline = (.ok (), written ++ value.render newline) := by
  rw [Writer.print, writePieces_list]
  rfl

end ProgramSupport
