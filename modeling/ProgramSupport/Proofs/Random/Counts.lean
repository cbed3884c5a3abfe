import Mathlib.Data.Int.CardIntervalMod
import Mathlib.Data.Set.Card
import ProgramSupport.Proofs.Random.Range

/-!
# How often an integer is drawn

Two words have `2 ^ 64` values.  This file counts those with which a given integer of a range is
drawn.  It provides

* `pairNumber` — the number of a pair of words, one to one with the numbers below `2 ^ 64`;
* `pairsGiving` — the pairs with which an integer is drawn, and `mem_pairsGiving_iff`, that their
  numbers are those with one remainder;
* `drawCount` — how many there are, and `drawCount_eq`, the number by division;
* `draws_counted` — the counts of all integers of a range beside one another.
-/

namespace ProgramSupport

/-! ### Pairs of words -/

/-- The number that a pair of words makes. -/
def pairNumber (p : UInt32 × UInt32) : ℕ := p.1.toNat * 2 ^ 32 + p.2.toNat

theorem pairNumber_lt (p : UInt32 × UInt32) : pairNumber p < 2 ^ 64 := by
  have hhigh : p.1.toNat < 2 ^ 32 := p.1.toNat_lt
  have hlow : p.2.toNat < 2 ^ 32 := p.2.toNat_lt
  unfold pairNumber
  omega

theorem pairNumber_injective : Function.Injective pairNumber := by
  rintro ⟨high, low⟩ ⟨high', low'⟩ h
  have hlow : low.toNat < 2 ^ 32 := low.toNat_lt
  have hlow' : low'.toNat < 2 ^ 32 := low'.toNat_lt
  have hnumber : high.toNat * 2 ^ 32 + low.toNat = high'.toNat * 2 ^ 32 + low'.toNat := h
  rw [Prod.mk.injEq, ← UInt32.toNat_inj, ← UInt32.toNat_inj]
  omega

/-- Every number below `2 ^ 64` is made of its quotient and its remainder by `2 ^ 32`. -/
theorem exists_pairNumber_eq {n : ℕ} (h : n < 2 ^ 64) : ∃ p, pairNumber p = n := by
  have hhigh : n / 2 ^ 32 < 2 ^ 32 := by omega
  have hlow : n % 2 ^ 32 < 2 ^ 32 := by omega
  refine ⟨(UInt32.ofNat (n / 2 ^ 32), UInt32.ofNat (n % 2 ^ 32)), ?_⟩
  rw [pairNumber, UInt32.toNat_ofNat_of_lt' hhigh, UInt32.toNat_ofNat_of_lt' hlow]
  omega

/-! ### Pairs that give an integer -/

variable {start stop : Int64}

/-- The pairs of words with which an integer of a range is drawn. -/
def pairsGiving (start stop : Int64) (value : ℤ) : Set (UInt32 × UInt32) :=
  { p | ∀ s : WordStream, s.word s.position = p.1 → s.word (s.position + 1) = p.2 →
    (s.drawIn start stop).1.map Int64.toInt = .ok value }

/-- The number of integers in a range. -/
def rangeWidth (start stop : Int64) : ℕ := (stop.toInt - start.toInt).toNat

theorem rangeWidth_eq (h : start < stop) :
    (rangeWidth start stop : ℤ) = stop.toInt - start.toInt := by
  have hbefore := Int64.lt_iff_toInt_lt.1 h
  unfold rangeWidth
  omega

theorem rangeWidth_pos (h : start < stop) : 0 < rangeWidth start stop := by
  have hbefore := Int64.lt_iff_toInt_lt.1 h
  unfold rangeWidth
  omega

theorem rangeWidth_lt (start stop : Int64) : rangeWidth start stop < 2 ^ 64 := by
  have hstart := Int64.le_toInt start
  have hstop := Int64.toInt_lt stop
  unfold rangeWidth
  omega

/-- The next two words are drawn as the remainder of their number. -/
theorem drawIn_pairNumber (h : start < stop) (s : WordStream) :
    (s.drawIn start stop).1.map Int64.toInt = .ok (start.toInt +
      (pairNumber (s.word s.position, s.word (s.position + 1)) % rangeWidth start stop : ℕ)) := by
  rw [s.drawIn_eq h]
  refine congrArg Except.ok ?_
  rw [toInt_placeInRange h, toNat_joinWords, ← rangeWidth_eq h]
  rfl

/-- The remainder of its number decides which integer a pair gives. -/
theorem mem_pairsGiving_iff (h : start < stop) {k : ℕ} (hk : k < rangeWidth start stop)
    (p : UInt32 × UInt32) :
    p ∈ pairsGiving start stop (start.toInt + k) ↔
      pairNumber p ≡ k [MOD rangeWidth start stop] := by
  have hvalue : (Except.ok (start.toInt + (pairNumber p % rangeWidth start stop : ℕ)) :
      Except Violation ℤ) = .ok (start.toInt + k) ↔
        pairNumber p % rangeWidth start stop = k := by
    rw [Except.ok.injEq]
    omega
  rw [Nat.ModEq, Nat.mod_eq_of_lt hk, ← hvalue]
  constructor
  · intro hmem
    rw [← hmem (.cyclic #[p.1, p.2]) rfl rfl]
    exact (drawIn_pairNumber h (.cyclic #[p.1, p.2])).symm
  · intro hremainder s hhigh hlow
    rw [drawIn_pairNumber h, hhigh, hlow]
    exact hremainder

/-- How many pairs of words give the integer at a distance from the start of a range. -/
noncomputable def drawCount (start stop : Int64) (k : ℕ) : ℕ :=
  (pairsGiving start stop (start.toInt + k)).ncard

theorem drawCount_eq (h : start < stop) {k : ℕ} (hk : k < rangeWidth start stop) :
    drawCount start stop k =
      2 ^ 64 / rangeWidth start stop + if k < 2 ^ 64 % rangeWidth start stop then 1 else 0 := by
  have hpreimage : pairsGiving start stop (start.toInt + k) =
      Set.preimage pairNumber
        ((Finset.range (2 ^ 64)).filter (· ≡ k [MOD rangeWidth start stop])) := by
    ext p
    rw [mem_pairsGiving_iff h hk, Set.mem_preimage, Finset.mem_coe, Finset.mem_filter,
      Finset.mem_range, and_iff_right (pairNumber_lt p)]
  have hrange : (((Finset.range (2 ^ 64)).filter (· ≡ k [MOD rangeWidth start stop]) :
      Finset ℕ) : Set ℕ) ⊆ Set.range pairNumber := by
    intro n hn
    rw [Finset.mem_coe, Finset.mem_filter, Finset.mem_range] at hn
    exact exists_pairNumber_eq hn.1
  rw [drawCount, hpreimage,
    Set.ncard_preimage_of_injective_subset_range pairNumber_injective hrange,
    Set.ncard_coe_finset, ← Nat.count_eq_card_filter_range,
    Nat.count_modEq_card _ (rangeWidth_pos h), Nat.mod_eq_of_lt hk]

/-- A power of two that is the width of a range divides `2 ^ 64`. -/
theorem mod_rangeWidth_of_pow {e : ℕ} (he : rangeWidth start stop = 2 ^ e) :
    2 ^ 64 % rangeWidth start stop = 0 := by
  have hlt : 2 ^ e < 2 ^ 64 := he ▸ rangeWidth_lt start stop
  have hexponent : e < 64 := (Nat.pow_lt_pow_iff_right (by decide)).1 hlt
  rw [he]
  exact Nat.mod_eq_zero_of_dvd (Nat.pow_dvd_pow 2 hexponent.le)

/-- An integer of a range is drawn with as many pairs of words as the width fits into `2 ^ 64`,
and with one more if its distance from the start is below the remainder.  So all are drawn, none
with two pairs more than another or with more pairs than those before it, and all equally often
when the width is a power of two. -/
theorem draws_counted (h : start < stop) :
    (∀ k < rangeWidth start stop, drawCount start stop k =
        2 ^ 64 / rangeWidth start stop + if k < 2 ^ 64 % rangeWidth start stop then 1 else 0) ∧
      (∀ k < rangeWidth start stop, 0 < drawCount start stop k) ∧
      (∀ j < rangeWidth start stop, ∀ k < rangeWidth start stop,
        drawCount start stop j ≤ drawCount start stop k + 1) ∧
      (∀ k < rangeWidth start stop, ∀ j ≤ k, drawCount start stop k ≤ drawCount start stop j) ∧
      ∀ e, rangeWidth start stop = 2 ^ e → ∀ k < rangeWidth start stop,
        drawCount start stop k = 2 ^ 64 / rangeWidth start stop := by
  have hpos : 0 < 2 ^ 64 / rangeWidth start stop :=
    Nat.div_pos (rangeWidth_lt start stop).le (rangeWidth_pos h)
  refine ⟨fun k hk => drawCount_eq h hk, ?_, ?_, ?_, ?_⟩
  · intro k hk
    rw [drawCount_eq h hk]
    omega
  · intro j hj k hk
    rw [drawCount_eq h hj, drawCount_eq h hk]
    split <;> split <;> omega
  · intro k hk j hj
    rw [drawCount_eq h hk, drawCount_eq h (hj.trans_lt hk)]
    split <;> split <;> omega
  · intro e he k hk
    rw [drawCount_eq h hk, mod_rangeWidth_of_pow he]
    rfl

/-- Of six integers the first four are drawn with one pair more than the last two. -/
theorem draws_counted_six :
    (10 : Int64) < 16 ∧ drawCount 10 16 3 = 3074457345618258603 ∧
      drawCount 10 16 4 = 3074457345618258602 := by
  have h : (10 : Int64) < 16 := by decide
  obtain ⟨hcount, -⟩ := draws_counted h
  exact ⟨h, (hcount 3 (by decide)).trans (by decide), (hcount 4 (by decide)).trans (by decide)⟩

end ProgramSupport
