import ProgramSupport.Printing.Printable
import ProgramSupport.Proofs.Binary64.Rounding
import ProgramSupport.Proofs.Text.FixedPoint

/-!
# Printed double-precision numbers

This file provides

* `Binary64.IsNan`, `Binary64.IsInfinite` and `Binary64.IsFinite` — what the 64 bits stand for, and
  `Binary64.toRat`, the exact value of a finite number;
* `Binary64.magnitude_of_isFinite` — significand and exponent make the exact value;
* `Binary64.text_of_isFinite` — a finite number is printed as the numeral of its rounded value in
  units of the fifth place;
* `Binary64.exists_value_eq` — printing is rounding of the value with its sign;
* `Binary64.prints_five_places` — what is printed for all bits, and that printing keeps the order.
-/

namespace ProgramSupport

namespace Binary64

/-! ### Values -/

/-- All bits of the exponent are set, and some of the fraction. -/
def IsNan (x : Binary64) : Prop := x.exponent = 2 ^ 11 - 1 ∧ x.fraction ≠ 0

/-- All bits of the exponent are set, and none of the fraction. -/
def IsInfinite (x : Binary64) : Prop := x.exponent = 2 ^ 11 - 1 ∧ x.fraction = 0

def IsFinite (x : Binary64) : Prop := x.exponent ≠ 2 ^ 11 - 1

instance decidableIsNan (x : Binary64) : Decidable x.IsNan := inferInstanceAs (Decidable (_ ∧ _))

instance decidableIsInfinite (x : Binary64) : Decidable x.IsInfinite :=
  inferInstanceAs (Decidable (_ ∧ _))

instance decidableIsFinite (x : Binary64) : Decidable x.IsFinite :=
  inferInstanceAs (Decidable (_ ≠ _))

/-- The exact value of a finite number without its sign.  The fraction stands behind a leading one,
or behind a zero in the numbers with the least exponent. -/
def absolute (x : Binary64) : ℚ :=
  if x.exponent = 0 then x.fraction / 2 ^ 52 * 2 ^ (-1022 : ℤ)
  else (1 + x.fraction / 2 ^ 52) * 2 ^ (x.exponent - 1023 : ℤ)

/-- The exact value of a finite number. -/
def toRat (x : Binary64) : ℚ := if x.negative then -x.absolute else x.absolute

theorem absolute_nonneg (x : Binary64) : 0 ≤ x.absolute := by
  unfold absolute
  split <;> positivity

theorem abs_toRat (x : Binary64) : |x.toRat| = x.absolute := by
  unfold toRat
  split
  · rw [abs_neg, abs_of_nonneg x.absolute_nonneg]
  · exact abs_of_nonneg x.absolute_nonneg

/-- Significand and exponent make the exact value. -/
theorem magnitude_of_isFinite {x : Binary64} (h : x.IsFinite) :
    ∃ (significand : ℕ) (exponent : ℤ), x.magnitude = .finite significand exponent ∧
      (significand * 2 ^ exponent : ℚ) = x.absolute := by
  have hfinite : ¬ x.exponent = Nat.pow 2 11 - 1 := h
  have hshift (e : ℤ) : (2 : ℚ) ^ (e - 52) = 2 ^ e / 2 ^ 52 := by
    rw [zpow_sub₀ two_ne_zero]
    norm_cast
  by_cases hzero : x.exponent = 0
  · refine ⟨x.fraction, -1022 - 52, ?_, ?_⟩
    · rw [magnitude, if_neg hfinite, if_pos hzero]
      rfl
    · rw [absolute, if_pos hzero, hshift]
      ring
  · refine ⟨2 ^ 52 + x.fraction, x.exponent - 1023 - 52, ?_, ?_⟩
    · rw [magnitude, if_neg hfinite, if_neg hzero, Int.sub_sub]
      rfl
    · rw [absolute, if_neg hzero, hshift]
      push_cast
      ring

/-! ### Texts -/

/-- What is printed for a number. -/
def text (x : Binary64) : List UInt8 := (Printable.float x).render false

/-- The sign bit as it is printed. -/
def sign (x : Binary64) : List UInt8 := if x.negative then [Ascii.minus] else []

theorem text_eq (x : Binary64) : x.text = x.pieces.flatten :=
  congrArg List.flatten (List.append_nil x.pieces)

theorem text_of_isNan {x : Binary64} (h : x.IsNan) : x.text = Utf8.encode "nan" := by
  have hmagnitude : x.magnitude = .nan := by
    rw [magnitude, if_pos (show x.exponent = Nat.pow 2 11 - 1 from h.1), if_neg h.2]
  rw [text_eq, pieces, hmagnitude]
  show List.flatten [[110, 97, 110]] = _
  decide +kernel

theorem text_of_isInfinite {x : Binary64} (h : x.IsInfinite) :
    x.text = x.sign ++ Utf8.encode "inf" := by
  have hmagnitude : x.magnitude = .infinite := by
    rw [magnitude, if_pos (show x.exponent = Nat.pow 2 11 - 1 from h.1), if_pos h.2]
  rw [text_eq, pieces, hmagnitude, sign]
  cases x.negative <;> decide +kernel

/-- A finite number is printed as the numeral of its rounded value. -/
theorem text_of_isFinite {x : Binary64} (h : x.IsFinite) :
    ∃ n : ℕ, NearestEven (x.absolute * 10 ^ 5) n ∧
      x.text = (FixedPoint.ofUnits x.negative 5 n).text := by
  obtain ⟨significand, exponent, hmagnitude, hvalue⟩ := magnitude_of_isFinite h
  refine ⟨scaled significand exponent, hvalue ▸ scaled_nearestEven significand exponent, ?_⟩
  have hsign : (if x.negative then [[Ascii.minus]] else []).flatten = x.sign := by
    unfold sign
    split <;> rfl
  rw [text_eq, pieces, hmagnitude]
  show ((if x.negative then [[Ascii.minus]] else []) ++ fixedPieces _ _).flatten = _
  rw [List.flatten_append, hsign, flatten_fixedPieces]
  rfl

/-- Printing is rounding of the value with its sign. -/
theorem exists_value_eq {x : Binary64} (h : x.IsFinite) :
    ∃ n : ℤ, NearestEven (x.toRat * 10 ^ 5) n ∧
      (FixedPoint.ofBytes x.text).value = n / 10 ^ 5 := by
  obtain ⟨n, hnearest, htext⟩ := text_of_isFinite h
  refine ⟨if x.negative then -n else n, ?_, ?_⟩
  · unfold toRat
    split
    · rw [neg_mul]
      exact hnearest.neg
    · exact hnearest
  · rw [htext, FixedPoint.ofBytes_text (FixedPoint.proper_ofUnits _ _ _), FixedPoint.value,
      FixedPoint.units_ofUnits, FixedPoint.length_places_ofUnits]
    rfl

/-- What is printed for all bits: `nan`; the sign and `inf`; or the sign, an integer part without
superfluous zeros, a point and five digits, which make the integer that is nearest to the exact
value in units of the fifth place, and the even one of two.  The sign is the sign bit.  Printing
keeps the order of finite numbers. -/
theorem prints_five_places (x : Binary64) :
    (x.IsNan → x.text = Utf8.encode "nan") ∧
      (x.IsInfinite → x.text = x.sign ++ Utf8.encode "inf") ∧
      (x.IsFinite →
        let numeral := FixedPoint.ofBytes x.text
        x.text = x.sign ++ (numeral.whole ++ Ascii.point :: numeral.places) ∧
          numeral.Proper ∧ numeral.places.length = 5 ∧
          NearestEven (|x.toRat| * 10 ^ 5) numeral.units) ∧
      ∀ y : Binary64, x.IsFinite → y.IsFinite → x.toRat ≤ y.toRat →
        (FixedPoint.ofBytes x.text).value ≤ (FixedPoint.ofBytes y.text).value := by
  refine ⟨text_of_isNan, text_of_isInfinite, fun h => ?_, fun y hx hy hle => ?_⟩
  · obtain ⟨n, hnearest, htext⟩ := text_of_isFinite h
    have hproper := FixedPoint.proper_ofUnits x.negative 5 n
    simp only [htext, FixedPoint.ofBytes_text hproper]
    refine ⟨rfl, hproper, FixedPoint.length_places_ofUnits _ _ _, ?_⟩
    rw [FixedPoint.units_ofUnits, abs_toRat]
    exact hnearest
  · obtain ⟨n, hn, hxvalue⟩ := exists_value_eq hx
    obtain ⟨m, hm, hyvalue⟩ := exists_value_eq hy
    have hnm : n ≤ m := hn.mono hm (mul_le_mul_of_nonneg_right hle (by positivity))
    rw [hxvalue, hyvalue]
    exact div_le_div_of_nonneg_right (by exact_mod_cast hnm) (by positivity)

/-- The value `1 / 64` is in the middle between two numerals, of which the even one is printed. -/
theorem prints_five_places_middle :
    let x : Binary64 := ⟨0x3F90000000000000⟩
    x.IsFinite ∧ x.text = Utf8.encode "0.01562" ∧ NearestEven (|x.toRat| * 10 ^ 5) 1562 := by
  intro x
  have h : x.IsFinite := by decide +kernel
  have hunits : (FixedPoint.ofBytes x.text).units = 1562 := by decide +kernel
  obtain ⟨-, -, hfinite, -⟩ := prints_five_places x
  obtain ⟨-, -, -, hnearest⟩ := hfinite h
  rw [hunits] at hnearest
  exact ⟨h, by decide +kernel, hnearest⟩

end Binary64

end ProgramSupport
