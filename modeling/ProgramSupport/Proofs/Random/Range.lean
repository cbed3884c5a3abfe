import Mathlib.Algebra.Order.Ring.Int
import ProgramSupport.Random.Range

/-!
# Drawn integers as integers

An integer is drawn with machine words, whose sums, differences and casts wrap.  This file provides

* `toNat_joinWords` — the number that two words make, with the first as its higher half;
* `toNat_width` — the width of a range, which wraps nowhere although it need not fit into a signed
  word;
* `toInt_placeInRange` — the drawn integer as a sum of integers: what wraps in the cast of the
  remainder wraps back in the sum;
* `WordStream.drawIn_exact` — which ranges are refused, and what is drawn from the others.
-/

namespace ProgramSupport

/-! ### Words -/

/-- The first word is the higher half. -/
theorem toNat_joinWords (high low : UInt32) :
    (joinWords high low).toNat = high.toNat * 2 ^ 32 + low.toNat := by
  have hhigh : high.toNat < 2 ^ 32 := high.toNat_lt
  have hlow : low.toNat < 2 ^ 32 := low.toNat_lt
  have hcount : (32 : UInt64).toNat % 64 = 32 := by decide
  have hshift : high.toNat <<< 32 % 2 ^ 64 = high.toNat <<< 32 := by
    rw [Nat.shiftLeft_eq]
    omega
  rw [joinWords, UInt64.toNat_or, UInt64.toNat_shiftLeft, UInt32.toNat_toUInt64,
    UInt32.toNat_toUInt64, hcount, hshift, ← Nat.shiftLeft_add_eq_or_of_lt hlow,
    Nat.shiftLeft_eq]

/-- A signed word as an unsigned one is its remainder. -/
theorem toNat_toUInt64 (n : Int64) : (n.toUInt64.toNat : ℤ) = n.toInt % 2 ^ 64 := by
  have hlt : (n.toUInt64.toNat : ℤ) < 2 ^ 64 := by
    exact_mod_cast n.toUInt64.toNat_lt
  rw [← Int64.toInt_toBitVec, BitVec.toInt_eq_toNat_bmod]
  exact (Int.emod_eq_of_lt (Int.natCast_nonneg _) hlt).symm.trans Int.bmod_emod.symm

/-- An unsigned word as a signed one is its balanced remainder. -/
theorem toInt_toInt64 (n : UInt64) : n.toInt64.toInt = (n.toNat : ℤ).bmod (2 ^ 64) := by
  rw [← Int64.toInt_toBitVec, UInt64.toBitVec_toInt64, BitVec.toInt_eq_toNat_bmod]
  rfl

/-! ### Ranges -/

variable {start stop : Int64}

/-- The width of a range does not wrap. -/
theorem toNat_width (h : start < stop) :
    ((stop - start).toUInt64.toNat : ℤ) = stop.toInt - start.toInt := by
  have hbefore := Int64.lt_iff_toInt_lt.1 h
  have hstart := Int64.le_toInt start
  have hstop := Int64.toInt_lt stop
  rw [toNat_toUInt64, Int64.toInt_sub]
  refine (Int.bmod_emod (m := 2 ^ 64)).trans (Int.emod_eq_of_lt ?_ ?_)
  · omega
  · omega

/-- The remainder by the width of a range lies in the range from zero on. -/
theorem emod_width (h : start < stop) (number : ℤ) :
    0 ≤ number % (stop.toInt - start.toInt) ∧
      number % (stop.toInt - start.toInt) < stop.toInt - start.toInt := by
  have hbefore := Int64.lt_iff_toInt_lt.1 h
  exact ⟨Int.emod_nonneg _ (by omega), Int.emod_lt_of_pos _ (by omega)⟩

/-- The drawn integer lies behind the start of the range by the remainder of the number. -/
theorem toInt_placeInRange (h : start < stop) (number : UInt64) :
    (placeInRange start stop number).toInt =
      start.toInt + number.toNat % (stop.toInt - start.toInt) := by
  have hstart := Int64.le_toInt start
  have hstop := Int64.toInt_lt stop
  obtain ⟨hpos, hlt⟩ := emod_width h number.toNat
  -- The cast of the remainder may wrap, and the sum wraps back.
  rw [placeInRange, Int64.toInt_add, toInt_toInt64, Int.add_bmod_bmod, UInt64.toNat_mod,
    Int.natCast_emod, toNat_width h]
  exact Int.bmod_eq_of_le (by omega) (by omega)

theorem le_placeInRange (h : start < stop) (number : UInt64) :
    start ≤ placeInRange start stop number := by
  obtain ⟨hpos, -⟩ := emod_width h number.toNat
  rw [Int64.le_iff_toInt_le, toInt_placeInRange h]
  omega

theorem placeInRange_lt (h : start < stop) (number : UInt64) :
    placeInRange start stop number < stop := by
  obtain ⟨-, hlt⟩ := emod_width h number.toNat
  rw [Int64.lt_iff_toInt_lt, toInt_placeInRange h]
  omega

namespace WordStream

/-- Exactly the empty ranges are refused, and no word is taken for them.  From any other range an
integer is drawn with the next two words: as integers, without any wrapping, it is the start and
the remainder of the number that the words make by the width.  So it lies in the range. -/
theorem drawIn_exact (s : WordStream) (start stop : Int64) :
    let high := s.word s.position
    let low := s.word (s.position + 1)
    let width := stop.toInt - start.toInt
    (s.drawIn start stop = (.error (.emptyRandomRange start.toInt stop.toInt), s) ↔
        stop ≤ start) ∧
      (start < stop →
        0 < width ∧ ((stop - start).toUInt64.toNat : ℤ) = width ∧
          ∃ value : Int64,
            s.drawIn start stop = (.ok value, { s with position := s.position + 2 }) ∧
              value.toInt = start.toInt + (high.toNat * 2 ^ 32 + low.toNat) % width ∧
              start ≤ value ∧ value < stop) := by
  intro high low width
  refine ⟨⟨fun hdraw => ?_, fun hempty => ?_⟩, fun h => ?_⟩
  · by_contra hrange
    rw [drawIn_eq s (Int64.not_le.1 hrange)] at hdraw
    cases hdraw
  · exact drawIn_of_not_lt s (Int64.not_lt.2 hempty)
  · have hbefore := Int64.lt_iff_toInt_lt.1 h
    refine ⟨Int.sub_pos_of_lt hbefore, toNat_width h, _, drawIn_eq s h, ?_,
      le_placeInRange h _, placeInRange_lt h _⟩
    rw [toInt_placeInRange h, toNat_joinWords]
    push_cast
    rfl

/-- The widest range, and a remainder that does not fit into a signed word. -/
theorem drawIn_exact_widest :
    let s : WordStream := .cyclic #[4294967295, 4294967294]
    Int64.minValue < Int64.maxValue ∧
      ∃ value : Int64,
        s.drawIn Int64.minValue Int64.maxValue = (.ok value, { s with position := 2 }) ∧
          value.toInt = 9223372036854775806 := by
  intro s
  have h : Int64.minValue < Int64.maxValue := by decide
  obtain ⟨-, hdraw⟩ := drawIn_exact s Int64.minValue Int64.maxValue
  obtain ⟨-, -, value, hresult, hvalue, -⟩ := hdraw h
  exact ⟨h, value, hresult, hvalue.trans (by decide)⟩

end WordStream

end ProgramSupport
