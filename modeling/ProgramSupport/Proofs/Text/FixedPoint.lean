import Mathlib.Data.Rat.Cast.Order
import Mathlib.Tactic.Ring
import ProgramSupport.Proofs.Source.Numerals

/-!
# Numerals with a point

This file provides

* `Decimal.value_append` — the number that digits stand for with other digits behind them;
* `FixedPoint` — a text of digits around a point, in its parts, with its sign and `FixedPoint.text`;
* `FixedPoint.value` — the number that it stands for, and `FixedPoint.units`, the same without its
  sign and counted in units of the last place;
* `FixedPoint.Proper` — the parts are digits, without superfluous zeros before the point;
* `FixedPoint.ofBytes` — the parts of a text, and `FixedPoint.ofBytes_text`, that proper parts are
  found again in their text;
* `FixedPoint.ofUnits` — the numeral of a number in units of the last place, which is proper and
  stands for that number.
-/

namespace ProgramSupport

/-! ### Digits -/

namespace Decimal

theorem value_append (ds es : List ℕ) : value (ds ++ es) = value ds * 10 ^ es.length + value es := by
  induction es generalizing ds with
  | nil => simp [value]
  | cons e es ih =>
    have hsingleton : value [e] = e := Nat.zero_add e
    have htail : value (e :: es) = e * 10 ^ es.length + value es := by
      rw [← List.singleton_append, ih, hsingleton]
    rw [List.append_cons, ih, value_append_singleton, htail, List.length_cons, pow_succ]
    ring

theorem fixedDigits_lt (count n : ℕ) : ∀ d ∈ fixedDigits count n, d < 10 := by
  induction count generalizing n with
  | zero => exact fun d hd => absurd hd List.not_mem_nil
  | succ count ih =>
    intro d hd
    rcases List.mem_append.1 hd with hd | hd
    · exact ih (n / 10) d hd
    · rw [List.mem_singleton.1 hd]
      exact Nat.mod_lt n (by decide)

/-- Only the number zero begins with the digit zero. -/
theorem eq_zero_of_head?_digits {n : ℕ} (h : (digits n).head? = some 0) : n = 0 := by
  fun_induction digits n with
  | case1 n hn => simpa using h
  | case2 n hn ih =>
    obtain ⟨d, ds, hdigits, -⟩ := exists_digits_eq_cons (n / 10)
    rw [hdigits, List.cons_append] at h
    have hzero := ih (by rw [hdigits]; exact h)
    omega

/-- Zero stands first only in the numeral of zero. -/
theorem bytes_digits_eq_zero {n : ℕ} (h : (bytes (digits n)).head? = some Ascii.zero) :
    bytes (digits n) = [Ascii.zero] := by
  obtain ⟨d, ds, hdigits, hd⟩ := exists_digits_eq_cons n
  have hbyte : UInt8.ofNat (48 + d) = Ascii.zero := by
    rw [hdigits] at h
    exact Option.some.inj h
  have hzero : d = 0 := by
    rw [← (byte_isDigit d hd).2, hbyte]
    rfl
  have hn : n = 0 := eq_zero_of_head?_digits (by rw [hdigits, hzero]; rfl)
  rw [hn]
  decide +kernel

end Decimal

/-! ### Parts of a numeral -/

/-- A text of digits around a point, in its parts. -/
structure FixedPoint where
  negative : Bool
  whole : List UInt8
  places : List UInt8
deriving Repr, DecidableEq

namespace FixedPoint

/-- The parts around the point, with a minus before them if the numeral is negative. -/
def text (f : FixedPoint) : List UInt8 :=
  (if f.negative then [Ascii.minus] else []) ++ (f.whole ++ Ascii.point :: f.places)

/-- The number that the digits on both sides of the point stand for together. -/
def units (f : FixedPoint) : ℕ := Decimal.ofBytes (f.whole ++ f.places)

/-- The number that the numeral stands for. -/
def value (f : FixedPoint) : ℚ :=
  ((if f.negative then -f.units else f.units : ℤ) : ℚ) / 10 ^ f.places.length

/-- The parts around the first point. -/
def ofUnsigned (negative : Bool) (bytes : List UInt8) : FixedPoint where
  negative := negative
  whole := bytes.takeWhile (· != Ascii.point)
  places := (bytes.dropWhile (· != Ascii.point)).tail

/-- The parts of a text, behind a minus if there is one. -/
def ofBytes (bytes : List UInt8) : FixedPoint :=
  if bytes.head? = some Ascii.minus then ofUnsigned true bytes.tail else ofUnsigned false bytes

/-- The parts are digits, and zero stands first before the point only when it stands there alone. -/
structure Proper (f : FixedPoint) : Prop where
  digits : ∀ b ∈ f.whole ++ f.places, Ascii.isDigit b = true
  whole_ne_nil : f.whole ≠ []
  leading : f.whole.head? = some Ascii.zero → f.whole = [Ascii.zero]

theorem ofUnsigned_append (negative : Bool) {whole : List UInt8}
    (h : ∀ b ∈ whole, Ascii.isDigit b = true) (places : List UInt8) :
    ofUnsigned negative (whole ++ Ascii.point :: places) = ⟨negative, whole, places⟩ := by
  have hpoint : ∀ b ∈ whole, (b != Ascii.point) = true := fun b hb =>
    bne_iff_ne.2 (Ascii.isDigit_ne (h b hb) (by decide))
  rw [ofUnsigned, List.takeWhile_append_of_pos hpoint, List.takeWhile_cons_of_neg (by decide),
    List.append_nil, List.dropWhile_append_of_pos hpoint, List.dropWhile_cons_of_neg (by decide),
    List.tail_cons]

/-- Proper parts are found again in their text. -/
theorem ofBytes_text {f : FixedPoint} (h : f.Proper) : ofBytes f.text = f := by
  have hwhole : ∀ b ∈ f.whole, Ascii.isDigit b = true := fun b hb =>
    h.digits b (List.mem_append_left _ hb)
  obtain ⟨negative, whole, places⟩ := f
  cases negative with
  | true => exact ofUnsigned_append true hwhole places
  | false =>
    -- The first byte is a digit and so no minus.
    obtain ⟨b, rest, rfl⟩ := List.exists_cons_of_ne_nil h.whole_ne_nil
    have hminus : b ≠ Ascii.minus := Ascii.isDigit_ne (hwhole b List.mem_cons_self) (by decide)
    show ofBytes (b :: rest ++ Ascii.point :: places) = _
    rw [ofBytes, if_neg (by simpa using hminus), ofUnsigned_append false hwhole]

/-! ### The numeral of a number -/

/-- The numeral of a number in units of the last place. -/
def ofUnits (negative : Bool) (count n : ℕ) : FixedPoint where
  negative := negative
  whole := Decimal.bytes (Decimal.digits (n / 10 ^ count))
  places := Decimal.bytes (Decimal.fixedDigits count n)

variable (negative : Bool) (count n : ℕ)

theorem proper_ofUnits : (ofUnits negative count n).Proper where
  digits := List.forall_mem_append.2
    ⟨Decimal.isDigit_of_mem_bytes (Decimal.digits_lt _),
      Decimal.isDigit_of_mem_bytes (Decimal.fixedDigits_lt _ _)⟩
  whole_ne_nil := by
    obtain ⟨d, ds, hdigits, -⟩ := Decimal.exists_digits_eq_cons (n / 10 ^ count)
    simp [ofUnits, hdigits, Decimal.bytes]
  leading := Decimal.bytes_digits_eq_zero

theorem length_places_ofUnits : (ofUnits negative count n).places.length = count := by
  show (Decimal.bytes (Decimal.fixedDigits count n)).length = count
  rw [Decimal.bytes, List.length_map, Decimal.length_fixedDigits]

/-- The numeral of a number stands for it. -/
theorem units_ofUnits : (ofUnits negative count n).units = n := by
  have hdigits : ∀ d ∈ Decimal.digits (n / 10 ^ count) ++ Decimal.fixedDigits count n, d < 10 :=
    List.forall_mem_append.2 ⟨Decimal.digits_lt _, Decimal.fixedDigits_lt _ _⟩
  have hbytes : (ofUnits negative count n).whole ++ (ofUnits negative count n).places =
      Decimal.bytes (Decimal.digits (n / 10 ^ count) ++ Decimal.fixedDigits count n) :=
    List.map_append.symm
  rw [units, hbytes, Decimal.ofBytes_bytes hdigits, Decimal.value_append, Decimal.value_digits,
    Decimal.length_fixedDigits, Decimal.value_fixedDigits]
  exact Nat.div_add_mod' n (10 ^ count)

end FixedPoint

end ProgramSupport
