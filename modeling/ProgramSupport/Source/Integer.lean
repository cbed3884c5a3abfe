import ProgramSupport.Source
import ProgramSupport.Text.Decimal

/-!
# Reading an integer

A decimal integer stands behind spaces: one sign at most, then digits.  The byte behind the
digits stays unread.  This file provides

* `Source.skipSpace` — the source behind its leading spaces;
* `Numeral` — the value and the number of the digits so far, where the value is collected as a
  negative number, because the least integer has no positive counterpart;
* `Source.readDigits` — the digits of a numeral, and its end;
* `Source.readInt` — one integer, or the reason why there is none.

A digit that takes the value out of range stays unread: the read ends there.
-/

namespace ProgramSupport

/-- The digits of a numeral so far: their value, negated, and their number. -/
structure Numeral where
  value : Int
  count : Nat
deriving Repr, DecidableEq

namespace Numeral

/-- One more digit, unless it takes the value below the least integer. -/
def push? (n : Numeral) (digit : Nat) : Option Numeral :=
  let value := 10 * n.value - digit
  if Int64.minValue.toInt ≤ value then some ⟨value, n.count + 1⟩ else none

/-- How the digits at the beginning of some bytes end. -/
inductive Run where
  /-- Every byte was a digit. -/
  | exhausted (n : Numeral)
  /-- A byte that is no digit stands first of those unread. -/
  | ended (n : Numeral) (unread : List UInt8)
  /-- A digit that takes the value out of range stands first of those unread. -/
  | overflow (unread : List UInt8)
deriving Repr, DecidableEq

/-- Take the digits at the beginning of some bytes. -/
def run (n : Numeral) : List UInt8 → Run
  | [] => .exhausted n
  | b :: bytes =>
    match Decimal.digit? b with
    | none => .ended n (b :: bytes)
    | some digit =>
      match n.push? digit with
      | none => .overflow (b :: bytes)
      | some n => run n bytes

/-- The integer of a whole numeral. -/
def result (n : Numeral) (negative : Bool) : Except Violation Int64 :=
  if n.count = 0 then .error (.invalidInteger "expected a decimal integer")
  else if negative then .ok (.ofInt n.value)
  else if -n.value ≤ Int64.maxValue.toInt then .ok (.ofInt (-n.value))
  else .error (.invalidInteger "integer out of range")

end Numeral

namespace Source

/-- The source behind its leading spaces. -/
def skipSpace : Source → Source
  | .interrupted :: rest => skipSpace rest
  | .data bytes :: rest =>
    match bytes.dropWhile Ascii.isSpace with
    | [] => skipSpace rest
    | b :: bytes => .data (b :: bytes) :: rest
  | source => source

/-- Read the other digits of a numeral and end it. -/
def readDigits (negative : Bool) (n : Numeral) : Source → Reading Int64
  | [] => { result := n.result negative, rest := [] }
  | .interrupted :: rest => readDigits negative n rest
  | .failure text :: rest => { result := .error (.io "readInt" text), rest }
  | .data bytes :: rest =>
    match n.run bytes with
    | .exhausted n => readDigits negative n rest
    | .ended n unread => { result := n.result negative, rest := .data unread :: rest }
    | .overflow unread =>
      { result := .error (.invalidInteger "integer out of range"), rest := .data unread :: rest }

/-- Read an integer: spaces, one sign at most, digits. -/
def readInt (source : Source) : Reading Int64 :=
  let source := source.skipSpace
  match source.nextByte with
  | .ended => { result := .error (.invalidInteger "unexpected end of input"), rest := [] }
  | .failure text rest => { result := .error (.io "readInt" text), rest }
  | .byte b rest =>
    if b = Ascii.minus then readDigits true ⟨0, 0⟩ rest
    else if b = Ascii.plus then readDigits false ⟨0, 0⟩ rest
    else readDigits false ⟨0, 0⟩ source

example : (readInt [.data [32, 45], .data [52, 50, 10]]).rest = [.data [10]] := by
  decide +kernel

end Source

end ProgramSupport
