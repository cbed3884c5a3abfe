import ProgramSupport.Text.Ascii

/-!
# Decimal numerals

This file provides

* `Decimal.digits` — the digits of a number, without superfluous zeros;
* `Decimal.fixedDigits` — its last digits, filled up with zeros;
* `Decimal.value` — the number that a list of digits stands for;
* `Decimal.bytes` — digits as ASCII bytes, and `Decimal.ofInteger` with its sign before them;
* `Decimal.digit?` — the digit that an ASCII byte stands for;
* `Decimal.read` — a bounded number from a text that holds one numeral and nothing else, with
  the reason of a failure.
-/

namespace ProgramSupport.Decimal

/-! ### Digits -/

/-- The digits of a number, the highest first. -/
def digits (n : Nat) : List Nat :=
  if n < 10 then [n] else digits (n / 10) ++ [n % 10]

/-- The last `count` digits of a number, zeros included. -/
def fixedDigits : Nat → Nat → List Nat
  | 0, _ => []
  | count + 1, n => fixedDigits count (n / 10) ++ [n % 10]

/-- The number that digits stand for. -/
def value (ds : List Nat) : Nat := ds.foldl (fun v d => 10 * v + d) 0

theorem value_append_singleton (ds : List Nat) (d : Nat) :
    value (ds ++ [d]) = 10 * value ds + d := by
  simp [value, List.foldl_append]

/-- More digits make no smaller number. -/
theorem value_le_append (ds more : List Nat) : value ds ≤ value (ds ++ more) := by
  induction more generalizing ds with
  | nil => exact Nat.le_of_eq (by rw [List.append_nil])
  | cons d more ih =>
    have hnext := ih (ds ++ [d])
    rw [List.append_assoc, List.singleton_append, value_append_singleton] at hnext
    omega

/-- The digits of a number stand for it. -/
@[simp] theorem value_digits (n : Nat) : value (digits n) = n := by
  fun_induction digits n with
  | case1 n h => simp [value]
  | case2 n h ih => rw [value_append_singleton, ih]; omega

@[simp] theorem length_fixedDigits (count n : Nat) : (fixedDigits count n).length = count := by
  induction count generalizing n with
  | zero => rfl
  | succ count ih => simp [fixedDigits, ih]

/-- The last digits of a number stand for its remainder by a power of ten. -/
theorem value_fixedDigits (count n : Nat) : value (fixedDigits count n) = n % Nat.pow 10 count := by
  induction count generalizing n with
  | zero => simp [fixedDigits, value, Nat.mod_one]
  | succ count ih =>
    have hpow : Nat.pow 10 (count + 1) = 10 * Nat.pow 10 count := Nat.mul_comm _ _
    rw [fixedDigits, value_append_singleton, ih, hpow, Nat.mod_mul]
    omega

/-- The last digits of a number are those of its remainder by a power of ten. -/
theorem fixedDigits_mod (count n : Nat) :
    fixedDigits count (n % Nat.pow 10 count) = fixedDigits count n := by
  induction count generalizing n with
  | zero => rfl
  | succ count ih =>
    have hpow : Nat.pow 10 (count + 1) = 10 * Nat.pow 10 count := Nat.mul_comm _ _
    rw [fixedDigits, fixedDigits, hpow, Nat.mod_mul_right_div_self, ih, Nat.mod_mul_right_mod]

/-! ### Bytes -/

/-- Digits as ASCII bytes. -/
def bytes (ds : List Nat) : List UInt8 := ds.map fun d => UInt8.ofNat (48 + d)

/-- The digit that an ASCII byte stands for. -/
def digit? (b : UInt8) : Option Nat :=
  if 48 ≤ b ∧ b ≤ 57 then some (b.toNat - 48) else none

/-- The numeral of an integer, with a sign before negative ones only. -/
def ofInteger (n : Int) : List UInt8 :=
  (if n < 0 then [Ascii.minus] else []) ++ bytes (digits n.natAbs)

/-! ### Reading a whole text -/

/-- Why a text is no numeral within the bound. -/
inductive ReadFault where
  | empty
  | invalidDigit
  | tooLarge
deriving Repr, DecidableEq

def ReadFault.message : ReadFault → String
  | .empty => "cannot parse integer from empty string"
  | .invalidDigit => "invalid digit found in string"
  | .tooLarge => "number too large to fit in target type"

/-- Append the digits of a text to a number.  Of a character that is no digit and a number
that passes the bound, the one that comes first is the fault. -/
def readDigits (bound : Nat) : Nat → List Char → Except ReadFault Nat
  | v, [] => .ok v
  | v, c :: text =>
    if c.isDigit then
      let v := 10 * v + (c.toNat - 48)
      if v ≤ bound then readDigits bound v text else .error .tooLarge
    else .error .invalidDigit

/-- The number that a text stands for: digits, after at most one plus sign. -/
def read (bound : Nat) : List Char → Except ReadFault Nat
  | [] => .error .empty
  | ['+'] => .error .invalidDigit
  | '+' :: text => readDigits bound 0 text
  | text => readDigits bound 0 text

example : ofInteger (-120) = [45, 49, 50, 48] := by decide +kernel

end ProgramSupport.Decimal
