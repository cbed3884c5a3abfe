import ProgramSupport.Text.Utf8
import ProgramSupport.Violation

/-!
# Immutable byte strings

A character of a program is one byte.  This file provides `ByteString` with

* `charAt` and `substring`, which check their arguments and fail with a violation;
* `reverse`, `concat` and `ofText`, which always succeed;
* `display`, the text that the bytes encode, with a replacement for what is no text.
-/

namespace ProgramSupport

/-- A string of bytes. -/
structure ByteString where
  bytes : List UInt8
deriving Repr, DecidableEq

namespace ByteString

def empty : ByteString := ⟨[]⟩

/-- The bytes of a text. -/
def ofText (text : String) : ByteString := ⟨Utf8.encode text⟩

/-- The number of characters. -/
def size (s : ByteString) : Nat := s.bytes.length

/-- The character at an index. -/
def charAt (s : ByteString) (index : Int64) : Except Violation UInt8 := do
  let slot ← checkIndex "String::char_at" index s.size
  return s.bytes.getD slot 0

/-- The characters in opposite order. -/
def reverse (s : ByteString) : ByteString := ⟨s.bytes.reverse⟩

/-- The characters of one string and then those of another. -/
def concat (s t : ByteString) : ByteString := ⟨s.bytes ++ t.bytes⟩

/-- The characters from `start` on and before `stop`. -/
def substring (s : ByteString) (start stop : Int64) : Except Violation ByteString :=
  if 0 ≤ start.toInt ∧ start.toInt ≤ stop.toInt ∧ stop.toInt ≤ s.size then
    .ok ⟨(s.bytes.take stop.toInt.toNat).drop start.toInt.toNat⟩
  else .error (.invalidRange "String::substring" start.toInt stop.toInt s.size)

/-- The text of the string, with `U+FFFD` for every maximal part that is no UTF-8. -/
def display (s : ByteString) : String := Utf8.lossyText s.bytes

/-- The text of the string, if it is UTF-8 throughout. -/
def text? (s : ByteString) : Option String := Utf8.text? s.bytes

end ByteString

end ProgramSupport
