import ProgramSupport.Binary64
import ProgramSupport.ByteString
import ProgramSupport.IntArray

/-!
# Printable values

A program prints values of seven kinds.  This file provides

* `Printable` — a value of one of them;
* `Printable.pieces` — its text as the list of pieces that are written one after another;
* `Printable.render` — its whole text, with or without a newline behind it.

Which pieces a text has is told apart only by a writer that fails between two of them.
-/

namespace ProgramSupport

/-- A value that a program can print. -/
inductive Printable where
  | bool (value : Bool)
  | char (value : UInt8)
  | int (value : Int64)
  | float (value : Binary64)
  | unit
  | string (value : ByteString)
  | array (value : IntArray)
deriving Repr, DecidableEq

namespace Printable

/-- A truth value that was passed as a byte: every byte but zero is true. -/
def ofTruthByte (b : UInt8) : Printable := .bool (b != 0)

/-- A sign, if there is one, and the digits. -/
def intPieces (value : Int64) : List (List UInt8) :=
  (if value.toInt < 0 then [[Ascii.minus]] else []) ++
    [Decimal.bytes (Decimal.digits value.toInt.natAbs)]

/-- The elements of an array with a comma and a space between them. -/
def elementPieces : List Int64 → List (List UInt8)
  | [] => []
  | [value] => intPieces value
  | value :: values => intPieces value ++ Utf8.encode ", " :: elementPieces values

/-- The text of a value in pieces. -/
def pieces : Printable → List (List UInt8)
  | .bool true => [Utf8.encode "true"]
  | .bool false => [Utf8.encode "false"]
  | .char value => [[value]]
  | .int value => intPieces value
  | .float value => value.pieces
  | .unit => [Utf8.encode "()"]
  | .string value => [value.bytes]
  | .array value =>
    Utf8.encode "IntArray(" :: elementPieces value.toList ++ [Utf8.encode ")"]

/-- The pieces of a value and of the newline behind it, if one is wanted. -/
def linePieces (value : Printable) (newline : Bool) : List (List UInt8) :=
  value.pieces ++ if newline then [[Ascii.newline]] else []

/-- The whole text of a value. -/
def render (value : Printable) (newline : Bool) : List UInt8 :=
  (value.linePieces newline).flatten

theorem intPieces_flatten (value : Int64) :
    (intPieces value).flatten = Decimal.ofInteger value.toInt := by
  unfold intPieces Decimal.ofInteger
  split <;> simp

theorem render_true (value : Printable) :
    value.render true = value.render false ++ [Ascii.newline] := by
  simp [render, linePieces]

end Printable

end ProgramSupport
