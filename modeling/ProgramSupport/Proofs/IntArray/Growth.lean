import ProgramSupport.Proofs.Buffer.Slices
import ProgramSupport.Proofs.IntArray.Printed

/-!
# What appending costs

An array that is appended to moves its storage now and then, to storage of twice the capacity.  This
file counts these moves and what they copy.  It provides

* `IntArray.Appended` — what one append does to the storage, and `IntArray.WellFormed.appended`;
* `IntArray.appends` — appends one after another, each with the array before and after it;
* `IntArray.WellFormed.total_eq` — what they cost together, where the cost of each is the growth of
  some quantity of the size;
* `IntArray.WellFormed.total_doubled` and `IntArray.WellFormed.total_copied` — the number of appends
  that change the capacity, and of the elements that they copy;
* `Shelf.appends_counted` — the counts for an array that any calls have made.

An append copies one element less than the capacity it gives up, so what is copied is what the
capacity grows by, less one for each move.
-/

namespace ProgramSupport

namespace IntArray

/-! ### One append -/

/-- What an append does to the storage: it moves if the capacity changes, and then doubles the
capacity and copies all elements. -/
structure Appended (before after : IntArray) : Prop where
  size_eq : after.size = before.size + 1
  capacity_eq : after.capacity =
    if before.capacity = before.size + 1 then 2 * before.capacity else before.capacity
  /-- Range by range, this is the move that resizing makes. -/
  resize?_eq : before.buffer.resize? after.size =
    some (before.buffer.resize after.size, before.moveTo? after)
  moveTo?_eq : before.moveTo? after =
    if before.capacity = after.capacity then none
    else some ⟨before.capacity, after.capacity, before.size⟩

theorem size_append (a : IntArray) (value : Int64) : (a.append value).size = a.size + 1 := by
  show (a.buffer.resize (a.size + 1)).length = _
  rw [Buffer.resize_eq]

theorem WellFormed.appended {a : IntArray} (ha : a.WellFormed) (value : Int64) :
    Appended a (a.append value) := by
  have hafter := (append_view ha value).1
  have hsize := size_append a value
  constructor
  · exact hsize
  · rw [hafter.capacity_eq, hsize, capacityFor_succ, ← ha.capacity_eq]
  · exact ha.buffer.resize?_eq _
  · have hkept : min a.buffer.length (a.size + 1) = a.size := Nat.min_eq_left (Nat.le_succ _)
    rw [moveTo?, Buffer.resizeMove?, hafter.capacity_eq, hsize, hkept]
    by_cases hsame : capacityFor (a.size + 1) = a.capacity
    · rw [if_pos hsame.symm]
      exact if_pos hsame
    · rw [if_neg (Ne.symm hsame)]
      exact if_neg hsame

namespace Appended

variable {before after : IntArray}

/-- The capacity changes just if the new element would fill it. -/
theorem capacity_ne_iff (h : Appended before after) :
    before.capacity ≠ after.capacity ↔ before.capacity = before.size + 1 := by
  rw [h.capacity_eq]
  split <;> omega

theorem capacity_eq_two_mul (h : Appended before after) (hne : before.capacity ≠ after.capacity) :
    after.capacity = 2 * before.capacity := by
  rw [h.capacity_eq, if_pos (h.capacity_ne_iff.1 hne)]

end Appended

/-! ### Appends one after another -/

/-- Append values one after another: the array before and after each of them. -/
def appends (a : IntArray) : List Int64 → List (IntArray × IntArray)
  | [] => []
  | value :: values => (a, a.append value) :: appends (a.append value) values

/-- What steps cost together. -/
def total (cost : IntArray → IntArray → Nat) : List (IntArray × IntArray) → Nat
  | [] => 0
  | (before, after) :: steps => cost before after + total cost steps

/-- One for a step that changes the capacity. -/
def doubled (before after : IntArray) : Nat := if before.capacity = after.capacity then 0 else 1

/-- The number of elements that a step copies to other storage. -/
def copied (before after : IntArray) : Nat :=
  match before.moveTo? after with
  | some move => move.kept
  | none => 0

theorem Appended.doubled_eq {before after : IntArray} (h : Appended before after) :
    doubled before after = if before.capacity = before.size + 1 then 1 else 0 := by
  have hchange := h.capacity_ne_iff
  unfold doubled
  split <;> split <;> omega

theorem Appended.copied_eq {before after : IntArray} (h : Appended before after) :
    copied before after = if before.capacity = before.size + 1 then before.size else 0 := by
  have hchange := h.capacity_ne_iff
  rw [copied, h.moveTo?_eq]
  by_cases hsame : before.capacity = after.capacity
  · rw [if_pos hsame, if_neg fun hfull => hchange.2 hfull hsame]
  · rw [if_neg hsame, if_pos (hchange.1 hsame)]

namespace WellFormed

variable {a : IntArray}

theorem appended_of_mem (ha : a.WellFormed) {values : List Int64} {before after : IntArray}
    (h : (before, after) ∈ appends a values) : Appended before after := by
  induction values generalizing a with
  | nil => exact absurd h List.not_mem_nil
  | cons value values ih =>
    rcases List.mem_cons.1 h with heq | hmem
    · obtain ⟨rfl, rfl⟩ := Prod.mk.inj heq
      exact ha.appended value
    · exact ih (append_view ha value).1 hmem

/-- A cost that is the growth of some quantity of the size at each step is that at all of them. -/
theorem total_eq {cost : IntArray → IntArray → Nat} (quantity : Nat → Nat)
    (hstep : ∀ before after, before.WellFormed → Appended before after →
      cost before after + quantity before.size = quantity (before.size + 1))
    (ha : a.WellFormed) (values : List Int64) :
    total cost (appends a values) + quantity a.size = quantity (a.size + values.length) := by
  induction values generalizing a with
  | nil => exact Nat.zero_add _
  | cons value values ih =>
    have hfirst := hstep a (a.append value) ha (ha.appended value)
    have hrest := ih (append_view ha value).1
    rw [size_append] at hrest
    rw [appends, total, List.length_cons, Nat.add_comm values.length 1, ← Nat.add_assoc a.size,
      ← hrest, ← hfirst]
    omega

/-- Each doubling is one binary digit of the size. -/
theorem total_doubled (ha : a.WellFormed) (values : List Int64) :
    total doubled (appends a values) + bitLength a.size = bitLength (a.size + values.length) := by
  refine total_eq bitLength (fun before after hbefore happended => ?_) ha values
  rw [happended.doubled_eq, bitLength_succ, ← hbefore.capacity_eq]
  split <;> omega

/-- What is copied is what the capacity grows by, less one for each doubling. -/
theorem total_copied (ha : a.WellFormed) (values : List Int64) :
    total copied (appends a values) + (capacityFor a.size - bitLength a.size) =
      capacityFor (a.size + values.length) - bitLength (a.size + values.length) := by
  refine total_eq (fun size => capacityFor size - bitLength size)
    (fun before after hbefore happended => ?_) ha values
  have hbits := bitLength_lt_capacityFor before.size
  rw [← hbefore.capacity_eq] at hbits
  rw [happended.copied_eq, capacityFor_succ, bitLength_succ, ← hbefore.capacity_eq]
  split <;> omega

end WellFormed

end IntArray

/-! ### The counts of a run -/

open IntArray

/-- Whatever calls have made an array, appending to it doubles the capacity as often as the binary
logarithm of the two capacities tells, and never changes it otherwise.  All moves together copy at
most twice the elements that are there at the end.  From an empty array on there are as many moves
as the number of appended elements has binary digits. -/
theorem Shelf.appends_counted {a : IntArray} (ha : Reached a) (values : List Int64) :
    (∀ before after, (before, after) ∈ appends a values → Appended before after ∧
        (before.capacity ≠ after.capacity → after.capacity = 2 * before.capacity)) ∧
      total doubled (appends a values) =
        (capacityFor (a.size + values.length) / capacityFor a.size).log2 ∧
      capacityFor (a.size + values.length) =
        Nat.pow 2 (total doubled (appends a values)) * capacityFor a.size ∧
      total copied (appends a values) ≤ 2 * (a.size + values.length) ∧
      (a.size = 0 → total doubled (appends a values) = bitLength values.length) := by
  have hdoubled := ha.wellFormed.total_doubled values
  have hcopied := ha.wellFormed.total_copied values
  have hpower := capacityFor_eq_mul hdoubled
  refine ⟨fun before after hmem => ?_, ?_, hpower, ?_, fun hempty => ?_⟩
  · have happended := ha.wellFormed.appended_of_mem hmem
    exact ⟨happended, happended.capacity_eq_two_mul⟩
  · rw [hpower, Nat.mul_div_cancel _ (capacityFor_pos a.size)]
    exact Nat.log2_two_pow.symm
  · by_cases hnone : a.size + values.length = 0
    · obtain ⟨hsize, hlength⟩ := Nat.add_eq_zero_iff.1 hnone
      rw [List.length_eq_zero_iff.1 hlength]
      exact Nat.zero_le _
    · have hbound := capacityFor_le_two_mul (Nat.pos_of_ne_zero hnone)
      omega
  · rw [hempty, Nat.zero_add] at hdoubled
    exact hdoubled

/-- An array that is cut off and grown again copies three elements and then seven. -/
theorem Shelf.appends_counted_regrown :
    Reached ⟨⟨#[7, -8, 0, 0], 2⟩⟩ ∧
      total doubled (appends ⟨⟨#[7, -8, 0, 0], 2⟩⟩ [1, 2, 3, 4, 5, 6]) = 2 ∧
      total copied (appends ⟨⟨#[7, -8, 0, 0], 2⟩⟩ [1, 2, 3, 4, 5, 6]) = 10 ∧
      total copied (appends ⟨⟨#[7, -8, 0, 0], 2⟩⟩ [1, 2, 3, 4, 5, 6]) ≤ 2 * 8 := by
  have hreached : Reached ⟨⟨#[7, -8, 0, 0], 2⟩⟩ :=
    ⟨.exit, [.new .entry 3, .set .entry 0 0 7, .resize .entry 0 1, .append 0 (-8)],
      (.answered .unit, [⟨⟨#[7, -8, 0, 0], 2⟩⟩]), by decide +kernel, List.mem_singleton_self _⟩
  obtain ⟨-, hdoubled, -, hcopied, -⟩ := appends_counted hreached [1, 2, 3, 4, 5, 6]
  exact ⟨hreached, hdoubled.trans (by decide +kernel), by decide +kernel, hcopied⟩

end ProgramSupport
