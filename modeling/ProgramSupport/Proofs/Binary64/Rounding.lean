import Mathlib.Algebra.Order.Field.Power
import Mathlib.Data.Rat.Cast.Order
import Mathlib.Tactic.Linarith
import Mathlib.Tactic.NormNum
import Mathlib.Tactic.Positivity
import Mathlib.Tactic.Ring
import ProgramSupport.Binary64

/-!
# Rounding to the nearest integer

This file provides

* `NearestEven` — an integer that is nearest to a number, and even if another one is as near;
* `NearestEven.of_near` — how to find it: it is at most a half away, and even if it is a half away;
* `NearestEven.mono` — a greater number has no smaller integer, so there is only one for a number;
* `NearestEven.neg` — the sign of a number can be left out and put back;
* `roundedQuotient_nearestEven` and `Binary64.scaled_nearestEven` — the integers that are computed
  for a quotient and for a number in units of the fifth decimal place.
-/

namespace ProgramSupport

/-- No integer is nearer to the number, and this one is even if another one is as near. -/
structure NearestEven (q : ℚ) (n : ℤ) : Prop where
  nearest : ∀ m : ℤ, |q - n| ≤ |q - m|
  even : ∀ m : ℤ, m ≠ n → |q - m| = |q - n| → Even n

namespace NearestEven

variable {q r : ℚ} {n m : ℤ}

/-- An integer that is at most a half away is nearest.  Another one can be as near only if both are
a half away. -/
theorem of_near (hnear : |q - n| ≤ 1 / 2) (heven : |q - n| = 1 / 2 → Even n) :
    NearestEven q n := by
  have hother : ∀ m : ℤ, m ≠ n → 1 - |q - n| ≤ |q - m| := by
    intro m hm
    have hapart : (1 : ℚ) ≤ |(n : ℚ) - m| := by
      exact_mod_cast Int.one_le_abs (sub_ne_zero.2 hm.symm)
    have htriangle : |(n : ℚ) - m| ≤ |q - n| + |q - m| := by
      rw [abs_sub_comm q n]
      exact abs_sub_le _ _ _
    linarith
  refine ⟨fun m => ?_, fun m hm hequal => heven ?_⟩
  · by_cases hm : m = n
    · rw [hm]
    · linarith [hother m hm]
  · linarith [hother m hm]

/-- A nearest integer is at most a half away, because its neighbours are no nearer. -/
theorem near (h : NearestEven q n) : n - 1 / 2 ≤ q ∧ q ≤ n + 1 / 2 := by
  have hbelow := sq_le_sq.2 (h.nearest (n - 1))
  have habove := sq_le_sq.2 (h.nearest (n + 1))
  push_cast at hbelow habove
  constructor <;> linarith

/-- A greater number has no smaller integer: two integers for one number would be neighbours that
are as near as one another, and both even. -/
theorem mono (hq : NearestEven q n) (hr : NearestEven r m) (h : q ≤ r) : n ≤ m := by
  by_contra hlt
  obtain ⟨hqn, -⟩ := hq.near
  obtain ⟨-, hrm⟩ := hr.near
  have hnext : (m : ℚ) + 1 ≤ n := by
    exact_mod_cast Int.add_one_le_of_lt (not_le.1 hlt)
  have hhalf : q = n - 1 / 2 := by linarith
  have hsame : r = q := by linarith
  have hmn : (n : ℚ) = m + 1 := by linarith
  have htie : |q - m| = |q - n| := by
    rw [hhalf, hmn]
    ring_nf
    norm_num
  have hneighbours : n = m + 1 := by exact_mod_cast hmn
  have hevenn := hq.even m (by omega) htie
  have hevenm := hr.even n (by omega) (by rw [hsame, htie])
  obtain ⟨a, ha⟩ := hevenn
  obtain ⟨b, hb⟩ := hevenm
  omega

/-- Ties are even on both sides of zero. -/
theorem neg (h : NearestEven q n) : NearestEven (-q) (-n : ℤ) := by
  have habs (m : ℤ) : |-q - m| = |q - (-m : ℤ)| := by
    rw [← abs_neg, Int.cast_neg]
    ring_nf
  refine ⟨fun m => ?_, fun m hm hequal => ?_⟩
  · rw [habs, habs, neg_neg]
    exact h.nearest (-m)
  · rw [habs, habs, neg_neg] at hequal
    exact (h.even (-m) (fun hneg => hm (by omega)) hequal).neg

/-- An integer is its own nearest one. -/
theorem intCast (n : ℤ) : NearestEven n n :=
  of_near (by norm_num) (by norm_num)

end NearestEven

/-! ### Computed integers -/

/-- The remainder is in the middle only where the quotient is rounded to an even number. -/
theorem even_roundedQuotient {num den : ℕ} (hden : 0 < den)
    (h : 2 * num = 2 * (roundedQuotient num den * den) + den ∨
      2 * num + den = 2 * (roundedQuotient num den * den)) :
    roundedQuotient num den % 2 = 0 := by
  have hdiv := Nat.div_add_mod num den
  have hlt := Nat.mod_lt num hden
  rw [Nat.mul_comm] at hdiv
  revert h
  unfold roundedQuotient
  simp only []
  split
  · omega
  · split
    · rw [Nat.add_mul]
      omega
    · omega

theorem roundedQuotient_nearestEven (num : ℕ) {den : ℕ} (hden : 0 < den) :
    NearestEven (num / den) (roundedQuotient num den) := by
  have hpos : (0 : ℚ) < den := by exact_mod_cast hden
  have hdistance : |(num : ℚ) / den - (roundedQuotient num den : ℕ)| =
      |(num : ℚ) - roundedQuotient num den * den| / den := by
    rw [← abs_of_pos hpos, ← abs_div, abs_of_pos hpos, sub_div, mul_div_cancel_right₀ _ hpos.ne']
  obtain ⟨hbelow, habove⟩ := roundedQuotient_near num den hden
  have hbelow : 2 * (num : ℚ) ≤ 2 * (roundedQuotient num den * den) + den := by
    exact_mod_cast hbelow
  have habove : 2 * (roundedQuotient num den * den : ℚ) ≤ 2 * num + den := by
    exact_mod_cast habove
  refine NearestEven.of_near ?_ fun htie => ?_
  · rw [Int.cast_natCast, hdistance, div_le_iff₀ hpos, abs_le]
    constructor <;> linarith
  · rw [Int.cast_natCast, hdistance, div_eq_iff hpos.ne', abs_eq (by positivity)] at htie
    have hmiddle : 2 * (num : ℚ) = 2 * (roundedQuotient num den * den) + den ∨
        2 * (num : ℚ) + den = 2 * (roundedQuotient num den * den) := by
      rcases htie with htie | htie
      · exact .inl (by linarith)
      · exact .inr (by linarith)
    have heven := even_roundedQuotient hden (by exact_mod_cast hmiddle)
    exact_mod_cast Nat.even_iff.2 heven

namespace Binary64

/-- The number in units of the fifth decimal place, rounded. -/
theorem scaled_nearestEven (significand : ℕ) (exponent : ℤ) :
    NearestEven (significand * 2 ^ exponent * 10 ^ 5) (scaled significand exponent) := by
  have hpow (b e : ℕ) : ((Nat.pow b e : ℕ) : ℚ) = (b : ℚ) ^ e := Nat.cast_pow b e
  unfold scaled
  split
  · next hexponent =>
    obtain ⟨e, rfl⟩ := Int.eq_ofNat_of_zero_le hexponent
    have hinteger : (significand * 2 ^ (e : ℤ) * 10 ^ 5 : ℚ) =
        ((significand * Nat.pow 2 e * Nat.pow 10 5 : ℕ) : ℤ) := by
      rw [zpow_natCast, Int.cast_natCast, Nat.cast_mul, Nat.cast_mul, hpow, hpow]
      norm_num
    rw [hinteger]
    exact NearestEven.intCast _
  · next hexponent =>
    obtain ⟨e, rfl⟩ := Int.exists_eq_neg_ofNat (Int.le_of_lt (Int.not_le.1 hexponent))
    have hquotient : (significand * 2 ^ (-(e : ℤ)) * 10 ^ 5 : ℚ) =
        ((significand * Nat.pow 10 5 : ℕ) : ℚ) / (Nat.pow 2 e : ℕ) := by
      rw [zpow_neg, zpow_natCast, Nat.cast_mul, hpow, hpow, div_eq_mul_inv]
      norm_num
      ring
    rw [hquotient, neg_neg]
    exact roundedQuotient_nearestEven _ (Nat.pow_pos (by decide))

end Binary64

end ProgramSupport
