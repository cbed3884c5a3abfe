/-!
# Capacities

A container of `n` elements that is sized by its contents holds the least power of two above
`n` slots.  This file provides

* `bitLength` — the number of binary digits of a number, zero for zero;
* `capacityFor` — two to that number: the least power of two strictly above the size;
* `doubledUntil` — repeated doubling of a starting capacity, which never overshoots;
* `DoublesTo` — the loop of doublings, turn by turn, which ends if the capacity is not zero.
-/

namespace ProgramSupport

/-- The number of binary digits of `n`; zero has none. -/
def bitLength (n : Nat) : Nat := if n = 0 then 0 else n.log2 + 1

/-- The capacity of a container of `size` elements: the least power of two above `size`. -/
def capacityFor (size : Nat) : Nat := Nat.pow 2 (bitLength size)

theorem lt_capacityFor (size : Nat) : size < capacityFor size := by
  unfold capacityFor bitLength
  split
  · show size < 1
    omega
  · exact Nat.lt_log2_self

theorem capacityFor_pos (size : Nat) : 0 < capacityFor size :=
  Nat.lt_of_le_of_lt (Nat.zero_le _) (lt_capacityFor size)

/-- Half of the capacity of a nonempty container is not above its size. -/
theorem capacityFor_le_two_mul {size : Nat} (h : 0 < size) : capacityFor size ≤ 2 * size := by
  have hdouble : capacityFor size = Nat.pow 2 size.log2 * 2 := by
    unfold capacityFor bitLength
    rw [if_neg (by omega)]
    rfl
  have hlog : Nat.pow 2 size.log2 ≤ size := Nat.log2_self_le (by omega)
  omega

/-- A number has one binary digit more than the one before it just if that one fills its digits. -/
theorem bitLength_succ (n : Nat) :
    bitLength (n + 1) = if capacityFor n = n + 1 then bitLength n + 1 else bitLength n := by
  have hlog : bitLength (n + 1) = (n + 1).log2 + 1 := if_neg (Nat.succ_ne_zero n)
  by_cases hfull : capacityFor n = n + 1
  · rw [if_pos hfull, hlog, ← hfull]
    exact congrArg (· + 1) Nat.log2_two_pow
  · have hlt := lt_capacityFor n
    have hpos : n ≠ 0 := by
      rintro rfl
      exact hfull rfl
    have hbits : bitLength n = n.log2 + 1 := if_neg hpos
    have hroom : n + 1 < Nat.pow 2 (n.log2 + 1) := by
      rw [← hbits]
      show n + 1 < capacityFor n
      omega
    rw [if_neg hfull, hlog, hbits, (Nat.log2_eq_iff (Nat.succ_ne_zero n)).2
      ⟨Nat.le_succ_of_le (Nat.log2_self_le hpos), hroom⟩]

/-- Sizes whose numbers of binary digits differ have capacities apart by a power of two. -/
theorem capacityFor_eq_mul {size larger k : Nat} (h : k + bitLength size = bitLength larger) :
    capacityFor larger = Nat.pow 2 k * capacityFor size := by
  rw [capacityFor, capacityFor, ← h]
  exact Nat.pow_add 2 k (bitLength size)

theorem bitLength_lt_capacityFor (size : Nat) : bitLength size < capacityFor size :=
  Nat.lt_two_pow_self

/-- One element more doubles the capacity just if it would fill the capacity. -/
theorem capacityFor_succ (size : Nat) :
    capacityFor (size + 1) =
      if capacityFor size = size + 1 then 2 * capacityFor size else capacityFor size := by
  rw [capacityFor, bitLength_succ]
  split
  · exact Nat.mul_comm _ _
  · rfl

/-- Double `capacity` until it reaches `needed`.  A capacity of zero cannot grow and is
returned as it is. -/
def doubledUntil (needed capacity : Nat) : Nat :=
  if 0 < capacity ∧ capacity < needed then doubledUntil needed (2 * capacity) else capacity
termination_by needed - capacity

/-- A positive capacity reaches what is needed. -/
theorem le_doubledUntil (needed capacity : Nat) (h : 0 < capacity) :
    needed ≤ doubledUntil needed capacity := by
  fun_induction doubledUntil needed capacity with
  | case1 capacity _ ih => exact ih (by omega)
  | case2 capacity _ => omega

/-- Doubling never takes capacity away. -/
theorem self_le_doubledUntil (needed capacity : Nat) :
    capacity ≤ doubledUntil needed capacity := by
  fun_induction doubledUntil needed capacity with
  | case1 capacity _ ih => omega
  | case2 capacity _ => exact Nat.le_refl _

theorem mul_two_pow_succ (capacity k : Nat) :
    capacity * Nat.pow 2 (k + 1) = 2 * capacity * Nat.pow 2 k := by
  rw [show Nat.pow 2 (k + 1) = Nat.pow 2 k * 2 from rfl, Nat.mul_comm 2, Nat.mul_assoc,
    Nat.mul_comm 2]

/-- Doubling multiplies by a power of two. -/
theorem exists_doubledUntil_eq (needed capacity : Nat) :
    ∃ k, doubledUntil needed capacity = capacity * Nat.pow 2 k := by
  fun_induction doubledUntil needed capacity with
  | case1 capacity _ ih =>
    obtain ⟨k, hk⟩ := ih
    exact ⟨k + 1, hk.trans (mul_two_pow_succ capacity k).symm⟩
  | case2 capacity _ => exact ⟨0, (Nat.mul_one _).symm⟩

/-- Of the doublings that reach what is needed, the capacity is the least. -/
theorem doubledUntil_le (needed capacity : Nat) {k : Nat} (h : needed ≤ capacity * Nat.pow 2 k) :
    doubledUntil needed capacity ≤ capacity * Nat.pow 2 k := by
  fun_induction doubledUntil needed capacity generalizing k with
  | case1 capacity hlt ih =>
    cases k with
    | zero =>
      have hone : capacity * Nat.pow 2 0 = capacity := Nat.mul_one _
      omega
    | succ k =>
      rw [mul_two_pow_succ] at h ⊢
      exact ih h
  | case2 capacity _ => exact Nat.le_mul_of_pos_right _ (Nat.pow_pos (by decide))

/-- Doubling on the way to more makes no difference. -/
theorem doubledUntil_doubledUntil {needed more : Nat} (h : needed ≤ more) (capacity : Nat) :
    doubledUntil more (doubledUntil needed capacity) = doubledUntil more capacity := by
  fun_induction doubledUntil needed capacity with
  | case1 capacity hlt ih =>
    rw [ih, doubledUntil.eq_1 more capacity, if_pos (by omega)]
  | case2 capacity _ => rfl

/-- Half of a capacity that had to be doubled is not enough. -/
theorem exists_half_doubledUntil {needed capacity : Nat} (hpos : 0 < capacity)
    (hlt : capacity < needed) :
    ∃ half, doubledUntil needed capacity = 2 * half ∧ half < needed := by
  fun_induction doubledUntil needed capacity with
  | case1 capacity _ ih =>
    by_cases hmore : 2 * capacity < needed
    · exact ih (by omega) hmore
    · rw [doubledUntil, if_neg (by omega)]
      exact ⟨capacity, rfl, hlt⟩
  | case2 capacity hstop => exact absurd ⟨hpos, hlt⟩ hstop

/-! ### The loop of doublings -/

/-- The loop that doubles a capacity as long as it is below what is needed ends with a capacity.
It does not end where it doubles without end, or reaches the limit of a machine word. -/
inductive DoublesTo (limit needed : Nat) : Nat → Nat → Prop where
  | enough {capacity : Nat} (h : needed ≤ capacity) : DoublesTo limit needed capacity capacity
  | double {capacity result : Nat} (h : capacity < needed) (hlimit : 2 * capacity < limit)
      (rest : DoublesTo limit needed (2 * capacity) result) :
      DoublesTo limit needed capacity result

/-- The loop ends with the capacity that is computed for it. -/
theorem doublesTo_doubledUntil {limit needed capacity : Nat} (hpos : 0 < capacity)
    (hlimit : 2 * needed ≤ limit) :
    DoublesTo limit needed capacity (doubledUntil needed capacity) := by
  fun_induction doubledUntil needed capacity with
  | case1 capacity hlt ih => exact .double hlt.2 (by omega) (ih (by omega))
  | case2 capacity hstop => exact .enough (by omega)

/-- The loop makes no way from a capacity of zero. -/
theorem not_doublesTo_zero {limit needed result : Nat} (h : 0 < needed) :
    ¬DoublesTo limit needed 0 result := by
  intro hloop
  generalize hzero : 0 = capacity at hloop
  induction hloop with
  | enough henough => omega
  | double _ _ _ ih => exact ih (by omega)

example : [0, 1, 2, 3, 4, 7, 8].map capacityFor = [1, 2, 4, 4, 8, 8, 16] := by decide

end ProgramSupport
