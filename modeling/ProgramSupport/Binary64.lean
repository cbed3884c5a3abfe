import ProgramSupport.Text.Decimal

/-!
# Double-precision numbers and their five decimal places

A number is given by its 64 bits: a sign, eleven bits of exponent and 52 bits of fraction.
This file provides

* `roundedQuotient` — the integer nearest to a quotient, of two the even one;
* `Binary64` with its fields and `Binary64.magnitude`, the exact value without the sign;
* `Binary64.scaled` — the magnitude in units of the fifth decimal place, rounded;
* `Binary64.digitRoom` — the number of digits that are written in pieces of their own;
* `Binary64.pieces` — the text of the number, in the pieces in which it is written.

The sign is the sign bit, so zeros and numbers that round to zero keep it.
-/

namespace ProgramSupport

/-! ### Rounding -/

/-- The integer nearest to `num / den`; when two are equally near, the even one. -/
def roundedQuotient (num den : Nat) : Nat :=
  let q := num / den
  let twice := 2 * (num % den)
  if twice < den then q
  else if den < twice then q + 1
  else q + q % 2

/-- The rounded quotient is at most half a unit away. -/
theorem roundedQuotient_near (num den : Nat) (h : 0 < den) :
    2 * num ≤ 2 * (roundedQuotient num den * den) + den ∧
      2 * (roundedQuotient num den * den) ≤ 2 * num + den := by
  have hdiv := Nat.div_add_mod num den
  have hlt := Nat.mod_lt num h
  have hparity := Nat.mod_two_eq_zero_or_one (num / den)
  unfold roundedQuotient
  simp only []
  rw [Nat.mul_comm] at hdiv
  split
  · omega
  · split
    · rw [Nat.add_mul]; omega
    · rcases hparity with hq | hq <;> rw [hq] <;> simp only [Nat.add_mul] <;> omega

/-! ### Fields -/

/-- The bits of a double-precision number. -/
structure Binary64 where
  bits : UInt64
deriving Repr, DecidableEq

namespace Binary64

def negative (x : Binary64) : Bool := decide (Nat.pow 2 63 ≤ x.bits.toNat)

def exponent (x : Binary64) : Nat := x.bits.toNat / Nat.pow 2 52 % Nat.pow 2 11

def fraction (x : Binary64) : Nat := x.bits.toNat % Nat.pow 2 52

/-- A number without its sign. -/
inductive Magnitude where
  | nan
  | infinite
  /-- The number `significand * 2 ^ exponent`. -/
  | finite (significand : Nat) (exponent : Int)
deriving Repr, DecidableEq

/-- The exact magnitude.  The least exponent stands for numbers without a leading one. -/
def magnitude (x : Binary64) : Magnitude :=
  if x.exponent = Nat.pow 2 11 - 1 then (if x.fraction = 0 then .infinite else .nan)
  else if x.exponent = 0 then .finite x.fraction (-1074)
  else .finite (Nat.pow 2 52 + x.fraction) (x.exponent - 1075)

/-- The number `significand * 2 ^ exponent` in units of the fifth decimal place, rounded to the
nearest integer, ties to even. -/
def scaled (significand : Nat) (exponent : Int) : Nat :=
  if 0 ≤ exponent then significand * Nat.pow 2 exponent.toNat * Nat.pow 10 5
  else roundedQuotient (significand * Nat.pow 10 5) (Nat.pow 2 (-exponent).toNat)

/-! ### Text -/

/-- The number of digits for which room is set aside: enough for the places of every number
below `2 ^ 53`, and five more for each sixteen binary digits above.  The exponent is taken for a
significand that is one binary digit longer, or two if it is the least there is. -/
def digitRoom (significand : Nat) (exponent : Int) : Nat :=
  21 + 5 * (exponent - if significand = Nat.pow 2 52 then 2 else 1).toNat / 16

/-- The pieces of a magnitude of `n` units of the fifth decimal place, with room for a number of
digits.  Above one, the integer part, the point, the places for which there is room and the
others; below one, a zero with the point, the leading zeros of the places and their other
digits. -/
def fixedPieces (room n : Nat) : List (List UInt8) :=
  if Nat.pow 10 5 ≤ n then
    let whole := Decimal.bytes (Decimal.digits (n / Nat.pow 10 5))
    let places := Decimal.bytes (Decimal.fixedDigits 5 (n % Nat.pow 10 5))
    [whole, [Ascii.point], places.take (room - whole.length),
      places.drop (room - whole.length)].filter (· ≠ [])
  else
    let places := Decimal.bytes (Decimal.fixedDigits 5 n)
    [[Ascii.zero, Ascii.point], places.takeWhile (· == Ascii.zero),
      places.dropWhile (· == Ascii.zero)].filter (· ≠ [])

/-- The room decides how a text is cut and leaves the text as it is. -/
theorem flatten_fixedPieces (room n : Nat) :
    (fixedPieces room n).flatten =
      Decimal.bytes (Decimal.digits (n / Nat.pow 10 5)) ++
        Ascii.point :: Decimal.bytes (Decimal.fixedDigits 5 n) := by
  unfold fixedPieces
  split
  · simp only [List.flatten_filter_ne_nil, List.flatten_cons, List.flatten_nil, List.append_nil,
      List.take_append_drop, Decimal.fixedDigits_mod, List.singleton_append]
  · rename_i h
    have hzero : n / Nat.pow 10 5 = 0 := Nat.div_eq_of_lt (Nat.lt_of_not_le h)
    simp only [List.flatten_filter_ne_nil, List.flatten_cons, List.flatten_nil, List.append_nil,
      List.takeWhile_append_dropWhile, hzero]
    rw [Decimal.digits]
    rfl

/-- The text of a number in pieces: the sign, then the magnitude with five decimal places.
What is not a number has no sign. -/
def pieces (x : Binary64) : List (List UInt8) :=
  let sign := if x.negative then [[Ascii.minus]] else []
  match x.magnitude with
  | .nan => [[110, 97, 110]]
  | .infinite => sign ++ [[105, 110, 102]]
  | .finite significand exponent =>
    sign ++ fixedPieces (digitRoom significand exponent) (scaled significand exponent)

example : (pieces ⟨0xBFBF9ADD3739635F⟩).flatten = [45, 48, 46, 49, 50, 51, 52, 54] := by
  decide +kernel

end Binary64

end ProgramSupport
