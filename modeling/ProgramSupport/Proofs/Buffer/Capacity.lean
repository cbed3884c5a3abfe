import ProgramSupport.Buffer.Capacity

/-!
# Capacities in machine words

A capacity is asked for and held as a word of 64 bits.  This file provides

* `bitLength_le_iff`, `capacityFor_le_of_lt` and `capacityFor_mono` — the capacity as the least
  power of two above the size, and what follows for larger sizes;
* `capacityWord?` — the capacity of a size, computed in words, where a result that is no word is
  a failure;
* `capacityWord?_eq_some_iff` — it succeeds just for the sizes below `2^63`, with `capacityFor`;
* `doublesTo_one_iff` — the loop that starts at one and doubles its capacity as long as this is not
  above the size ends with `capacityFor` and with nothing else;
* `capacityFor_decided` — this together.

The last size for which all this holds is `2^63 - 1`.  Its capacity is `2^63`, which is a word but
no signed integer of 64 bits.
-/

namespace ProgramSupport

/-! ### The least power of two above a size -/

/-- A number has at most so many binary digits just if it is below that power of two. -/
theorem bitLength_le_iff {n k : Nat} : bitLength n ≤ k ↔ n < Nat.pow 2 k := by
  unfold bitLength
  split
  · next hzero =>
    rw [hzero]
    exact ⟨fun _ => Nat.pow_pos (by decide), fun _ => Nat.zero_le k⟩
  · next hne => exact Nat.log2_lt hne

theorem isPowerOfTwo_capacityFor (size : Nat) : (capacityFor size).isPowerOfTwo :=
  ⟨bitLength size, rfl⟩

/-- No power of two above the size is below the capacity. -/
theorem capacityFor_le_of_lt {size power : Nat} (hpower : power.isPowerOfTwo)
    (h : size < power) : capacityFor size ≤ power := by
  obtain ⟨k, rfl⟩ := hpower
  exact Nat.pow_le_pow_right (by decide) (bitLength_le_iff.2 h)

theorem capacityFor_mono {size larger : Nat} (h : size ≤ larger) :
    capacityFor size ≤ capacityFor larger :=
  capacityFor_le_of_lt (isPowerOfTwo_capacityFor larger)
    (Nat.lt_of_le_of_lt h (lt_capacityFor larger))

/-- One element more fills the capacity just if it makes the size a power of two. -/
theorem capacityFor_eq_succ_iff {size : Nat} :
    capacityFor size = size + 1 ↔ (size + 1).isPowerOfTwo := by
  constructor
  · intro h
    rw [← h]
    exact isPowerOfTwo_capacityFor size
  · intro h
    exact Nat.le_antisymm (capacityFor_le_of_lt h (Nat.lt_succ_self size)) (lt_capacityFor size)

/-! ### Computing in words -/

/-- The word of a number, if it has one. -/
def word? (n : Nat) : Option UInt64 := if n < UInt64.size then some n.toUInt64 else none

/-- The number of zeros in front of the binary digits of a word. -/
def leadingZeros (n : UInt64) : Nat := 64 - bitLength n.toNat

/-- The least power of two that is not below a word: one more than what remains of the largest
word behind as many zeros as stand in front of the preceding word. -/
def nextPowerOfTwo? (n : UInt64) : Option UInt64 :=
  let ones := if n ≤ 1 then 0 else (UInt64.size - 1) >>> leadingZeros (n - 1)
  word? (ones + 1)

/-- The capacity of a size, computed in words. -/
def capacityWord? (size : UInt64) : Option UInt64 := do
  let above ← word? (size.toNat + 1)
  nextPowerOfTwo? above

theorem word?_eq_some_iff {n : Nat} {w : UInt64} : word? n = some w ↔ w.toNat = n := by
  have hw := w.toNat_lt
  unfold word?
  split
  · next hlt =>
    have hn : n.toUInt64.toNat = n := Nat.mod_eq_of_lt hlt
    rw [Option.some.injEq, ← UInt64.toNat_inj, hn]
    exact eq_comm
  · next hlarge =>
    refine ⟨nofun, ?_⟩
    rintro rfl
    exact absurd hw hlarge

/-- What remains of the largest word is all ones, as many as the number has digits. -/
theorem ones_add_one {n : Nat} (h : n < UInt64.size) :
    (UInt64.size - 1) >>> (64 - bitLength n) + 1 = capacityFor n := by
  have hbits : bitLength n ≤ 64 := bitLength_le_iff.2 h
  have hpos := capacityFor_pos n
  have hzeros : 0 < Nat.pow 2 (64 - bitLength n) := Nat.pow_pos (by decide)
  have hsize : UInt64.size = Nat.pow 2 (64 - bitLength n) * capacityFor n :=
    (Nat.pow_sub_mul_pow 2 hbits).symm
  have hones : (UInt64.size - 1) >>> (64 - bitLength n) = capacityFor n - 1 := by
    have hdiv := Nat.mul_sub_div 0 (Nat.pow 2 (64 - bitLength n)) (capacityFor n)
      (Nat.mul_pos hzeros hpos)
    rw [Nat.zero_div, ← hsize] at hdiv
    rw [Nat.shiftRight_eq_div_pow]
    exact hdiv
  omega

/-- The power of two behind the successor of a size is its capacity. -/
theorem nextPowerOfTwo?_eq {size above : UInt64} (h : above.toNat = size.toNat + 1) :
    nextPowerOfTwo? above = word? (capacityFor size.toNat) := by
  unfold nextPowerOfTwo?
  by_cases hzero : size.toNat = 0
  · have hle : above ≤ 1 := UInt64.le_iff_toNat_le.2 (by rw [h, hzero]; decide)
    simp only [if_pos hle, hzero]
    rfl
  · have hle : ¬above ≤ 1 := by
      rw [UInt64.le_iff_toNat_le, h]
      show ¬size.toNat + 1 ≤ 1
      omega
    have hone : (1 : UInt64) ≤ above := UInt64.le_of_lt (UInt64.not_le.1 hle)
    have hpred : above - 1 = size := by
      rw [← UInt64.toNat_inj, UInt64.toNat_sub_of_le above 1 hone, h]
      rfl
    simp only [if_neg hle, hpred, leadingZeros]
    rw [ones_add_one size.toNat_lt]

/-- The capacity is computed without overflow just for the sizes below `2^63`. -/
theorem capacityWord?_eq_some_iff {size capacity : UInt64} :
    capacityWord? size = some capacity ↔
      size.toNat < Nat.pow 2 63 ∧ capacity.toNat = capacityFor size.toNat := by
  constructor
  · intro h
    cases habove : word? (size.toNat + 1) with
    | none =>
      rw [capacityWord?, habove] at h
      cases h
    | some above =>
      rw [capacityWord?, habove] at h
      have hword : word? (capacityFor size.toNat) = some capacity := by
        rw [← nextPowerOfTwo?_eq (word?_eq_some_iff.1 habove)]
        exact h
      have hcapacity := word?_eq_some_iff.1 hword
      have hlt : Nat.pow 2 (bitLength size.toNat) < Nat.pow 2 64 := by
        show capacityFor size.toNat < UInt64.size
        rw [← hcapacity]
        exact capacity.toNat_lt
      have hbits : bitLength size.toNat < 64 := (Nat.pow_lt_pow_iff_right (by decide)).1 hlt
      exact ⟨bitLength_le_iff.1 (Nat.le_of_lt_succ hbits), hcapacity⟩
  · rintro ⟨hsize, hcapacity⟩
    have hroom : size.toNat + 1 < UInt64.size := Nat.lt_of_le_of_lt hsize (by decide)
    have habove : word? (size.toNat + 1) = some (size.toNat + 1).toUInt64 := if_pos hroom
    rw [capacityWord?, habove]
    show nextPowerOfTwo? _ = some capacity
    rw [nextPowerOfTwo?_eq (word?_eq_some_iff.1 habove)]
    exact word?_eq_some_iff.2 hcapacity

/-! ### Doubling from one on -/

/-- The loop ends with nothing but the capacity that is computed for it. -/
theorem DoublesTo.eq {limit needed capacity result : Nat}
    (h : DoublesTo limit needed capacity result) : result = doubledUntil needed capacity := by
  induction h with
  | enough henough => rw [doubledUntil, if_neg (by omega)]
  | @double capacity result hlt _ _ ih =>
    rw [ih, doubledUntil.eq_1 needed capacity]
    split
    · rfl
    · -- A capacity of zero is its own double.
      obtain rfl : capacity = 0 := by omega
      rw [doubledUntil, if_neg (by omega)]

/-- From one on, doubling reaches the powers of two. -/
theorem doubledUntil_one (size : Nat) : doubledUntil (size + 1) 1 = capacityFor size := by
  obtain ⟨k, hk⟩ := exists_doubledUntil_eq (size + 1) 1
  have hpower : (doubledUntil (size + 1) 1).isPowerOfTwo := ⟨k, hk.trans (Nat.one_mul _)⟩
  have henough := le_doubledUntil (size + 1) 1 Nat.one_pos
  have hleast : doubledUntil (size + 1) 1 ≤ 1 * Nat.pow 2 (bitLength size) :=
    doubledUntil_le _ _ (by rw [Nat.one_mul]; exact lt_capacityFor size)
  rw [Nat.one_mul] at hleast
  exact Nat.le_antisymm hleast (capacityFor_le_of_lt hpower henough)

/-- Below `2^63`, the loop that starts at one and doubles as long as the size is not below its
capacity stays in the words and ends with the capacity of the size. -/
theorem doublesTo_one_iff {size : Nat} (h : size < Nat.pow 2 63) {result : Nat} :
    DoublesTo UInt64.size (size + 1) 1 result ↔ result = capacityFor size := by
  rw [← doubledUntil_one]
  constructor
  · exact DoublesTo.eq
  · rintro rfl
    have hlimit : 2 * (size + 1) ≤ UInt64.size := Nat.mul_le_mul_left 2 h
    exact doublesTo_doubledUntil Nat.one_pos hlimit

/-- Every size below `2^63` has a capacity, which is computed without overflow.  It is what the loop
of doublings from one on ends with, and the least power of two above the size.  So it is no smaller
for a larger size, and one element more doubles it just if their number is a power of two then. -/
theorem capacityFor_decided {size : Nat} (h : size < Nat.pow 2 63) :
    (∃ capacity, capacityWord? size.toUInt64 = some capacity ∧
        capacity.toNat = capacityFor size) ∧
      (∀ result, DoublesTo UInt64.size (size + 1) 1 result ↔ result = capacityFor size) ∧
      ((capacityFor size).isPowerOfTwo ∧ size < capacityFor size ∧
        ∀ power : Nat, power.isPowerOfTwo → size < power → capacityFor size ≤ power) ∧
      (∀ smaller, smaller ≤ size → capacityFor smaller ≤ capacityFor size) ∧
      (size + 1 < Nat.pow 2 63 →
        ((size + 1).isPowerOfTwo → capacityFor (size + 1) = 2 * capacityFor size) ∧
          (¬(size + 1).isPowerOfTwo → capacityFor (size + 1) = capacityFor size)) := by
  have hsize : size.toUInt64.toNat = size := Nat.mod_eq_of_lt (Nat.lt_trans h (by decide))
  have hcapacity : capacityFor size < UInt64.size :=
    Nat.lt_of_le_of_lt (capacityFor_le_of_lt ⟨63, rfl⟩ h) (by decide)
  refine ⟨⟨(capacityFor size).toUInt64, ?_, Nat.mod_eq_of_lt hcapacity⟩,
    fun _ => doublesTo_one_iff h,
    ⟨isPowerOfTwo_capacityFor size, lt_capacityFor size, fun _ => capacityFor_le_of_lt⟩,
    fun _ => capacityFor_mono, fun _ => ⟨fun hfull => ?_, fun hroom => ?_⟩⟩
  · rw [capacityWord?_eq_some_iff, hsize]
    exact ⟨h, Nat.mod_eq_of_lt hcapacity⟩
  · rw [capacityFor_succ, if_pos (capacityFor_eq_succ_iff.2 hfull)]
  · rw [capacityFor_succ, if_neg fun heq => hroom (capacityFor_eq_succ_iff.1 heq)]

/-- The last size, whose capacity is `2^63`. -/
theorem capacityFor_decided_last :
    Nat.pow 2 63 - 1 < Nat.pow 2 63 ∧
      capacityWord? (Nat.pow 2 63 - 1).toUInt64 = some (Nat.pow 2 63).toUInt64 ∧
      DoublesTo UInt64.size (Nat.pow 2 63 - 1 + 1) 1 (Nat.pow 2 63) := by
  have hlast : Nat.pow 2 63 - 1 < Nat.pow 2 63 := by decide
  have hcapacity : Nat.pow 2 63 = capacityFor (Nat.pow 2 63 - 1) := by decide
  obtain ⟨⟨capacity, hword, hvalue⟩, hloop, -⟩ := capacityFor_decided hlast
  have heq : capacity = (Nat.pow 2 63).toUInt64 := by
    rw [← UInt64.toNat_inj, hvalue]
    decide
  rw [heq] at hword
  exact ⟨hlast, hword, (hloop _).2 hcapacity⟩

end ProgramSupport
