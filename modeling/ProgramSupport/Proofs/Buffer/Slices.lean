import ProgramSupport.Buffer.WellFormed

/-!
# Slices of storage

The storage of a buffer is read, copied over and filled by ranges.  A range that the storage does
not have, and a copy of more or fewer items than its range has slots, have no result.  This file
provides

* `Storage.part?`, `Storage.copyOver?` and `Storage.fillOver?` — what can be done with a range;
* `Buffer.elements?`, `Buffer.reallocate?`, `Buffer.resize?` and `Buffer.extend?` — the operations
  of a buffer, range by range, with the moves of storage that they make;
* `Buffer.WellFormed.elements?_eq`, `Buffer.WellFormed.resize?_eq` and `Buffer.extend?_eq` — in a
  well-formed buffer all ranges are there and all copies fit, and the results are those of the
  operations that ask no question.
-/

namespace ProgramSupport

namespace Storage

variable {α : Type}

/-- The slots from `start` on and before `stop`, if the storage has all of them. -/
def part? (slots : Array α) (start stop : Nat) : Option (List α) :=
  if start ≤ stop ∧ stop ≤ slots.size then some ((slots.toList.take stop).drop start) else none

/-- Copy items over the slots of a range, if there are as many of the ones as of the others. -/
def copyOver? (slots : Array α) (start stop : Nat) (items : List α) : Option (Array α) := do
  let part ← part? slots start stop
  if part.length = items.length then some (overwrite slots start items) else none

/-- Write one value over all slots of a range. -/
def fillOver? (slots : Array α) (start stop : Nat) (value : α) : Option (Array α) := do
  let part ← part? slots start stop
  some (overwrite slots start (List.replicate part.length value))

variable {slots : Array α} {start stop : Nat}

theorem part?_eq (hstart : start ≤ stop) (hstop : stop ≤ slots.size) :
    part? slots start stop = some ((slots.toList.take stop).drop start) :=
  if_pos ⟨hstart, hstop⟩

theorem length_part (hstop : stop ≤ slots.size) :
    ((slots.toList.take stop).drop start).length = stop - start := by
  rw [List.length_drop, List.length_take, Array.length_toList, Nat.min_eq_left hstop]

theorem copyOver?_eq (slots : Array α) (start : Nat) (items : List α)
    (hstop : start + items.length ≤ slots.size) :
    copyOver? slots start (start + items.length) items = some (overwrite slots start items) := by
  have hlength : ((slots.toList.take (start + items.length)).drop start).length = items.length := by
    rw [length_part hstop]
    omega
  rw [copyOver?, part?_eq (Nat.le_add_right _ _) hstop, Option.bind_eq_bind, Option.bind_some,
    if_pos hlength]

theorem fillOver?_eq (hstart : start ≤ stop) (hstop : stop ≤ slots.size) (value : α) :
    fillOver? slots start stop value =
      some (overwrite slots start (List.replicate (stop - start) value)) := by
  rw [fillOver?, part?_eq hstart hstop, Option.bind_eq_bind, Option.bind_some, length_part hstop]

end Storage

open Storage

namespace Buffer

variable {α : Type}

/-- The elements, as the slots of a range. -/
def elements? (b : Buffer α) : Option (List α) := part? b.slots 0 b.length

variable [Inhabited α]

/-- Copy the first `kept` slots over those of fresh storage. -/
def reallocate? (b : Buffer α) (capacity kept : Nat) : Option (Buffer α × Reallocation) := do
  let part ← part? b.slots 0 kept
  let slots ← copyOver? (Array.replicate capacity default) 0 kept part
  some ({ b with slots }, ⟨b.capacity, capacity, kept⟩)

/-- Set the length: move to fresh storage if the capacity has to change, and clear what is dropped
if it has not. -/
def resize? (b : Buffer α) (length : Nat) : Option (Buffer α × Option Reallocation) :=
  let target := capacityFor length
  if target ≠ b.capacity then do
    let (roomy, move) ← b.reallocate? target (min b.length length)
    some ({ roomy with length }, some move)
  else if length < b.length then do
    let slots ← fillOver? b.slots length b.length default
    some (⟨slots, length⟩, none)
  else some ({ b with length }, none)

/-- Append items, in storage of a doubled capacity if they do not fit. -/
def extend? (b : Buffer α) (items : List α) : Option (Buffer α × Option Reallocation) := do
  let length := b.length + items.length
  let (roomy, move) ←
    if b.capacity < length then
      (b.reallocate? (doubledUntil length b.capacity) b.length).map fun (roomy, move) =>
        (roomy, some move)
    else some (b, none)
  let slots ← copyOver? roomy.slots b.length length items
  some (⟨slots, length⟩, move)

/-! ### Every range is there -/

/-- A move keeps what both the old and the new storage have room for. -/
theorem reallocate?_eq (b : Buffer α) {capacity kept : Nat} (hold : kept ≤ b.capacity)
    (hnew : kept ≤ capacity) :
    b.reallocate? capacity kept = some (b.reallocate ⟨b.capacity, capacity, kept⟩,
      ⟨b.capacity, capacity, kept⟩) := by
  have hpart : (b.slots.toList.take kept).length = kept := by
    rw [List.length_take, Array.length_toList]
    exact Nat.min_eq_left hold
  have hcopy : copyOver? (Array.replicate capacity default) 0 kept (b.slots.toList.take kept) =
      some (overwrite (Array.replicate capacity default) 0 (b.slots.toList.take kept)) := by
    have hfits := copyOver?_eq (Array.replicate capacity default) 0 (b.slots.toList.take kept)
      (by rw [hpart, Array.size_replicate]; omega)
    rwa [hpart, Nat.zero_add] at hfits
  have hslots : overwrite (Array.replicate capacity default) 0 (b.slots.toList.take kept) =
      b.slots.extract 0 kept ++ Array.replicate (capacity - kept) default := by
    apply Array.toList_inj.1
    rw [toList_overwrite _ _ _ (by rw [hpart, Array.size_replicate]; omega), hpart,
      Array.toList_append, Array.toList_extract, Array.toList_replicate, Array.toList_replicate,
      List.drop_replicate, List.extract_eq_take_drop]
    simp
  rw [reallocate?, part?_eq (Nat.zero_le _) hold, Option.bind_eq_bind, Option.bind_some,
    List.drop_zero, hcopy, Option.bind_eq_bind, Option.bind_some, hslots]
  rfl

/-- Appending makes the move that is called for, and finds every slot that it asks for. -/
theorem extend?_eq {b : Buffer α} (hcap : 0 < b.capacity) (hlen : b.length ≤ b.capacity)
    (items : List α) :
    b.extend? items = some (b.extend items, b.extendMove? items.length) := by
  unfold extend? extend extendMove?
  by_cases hfit : b.length + items.length ≤ b.capacity
  · simp only [hfit, if_true, if_neg (Nat.not_lt.2 hfit)]
    rw [Option.bind_eq_bind, Option.bind_some, copyOver?_eq _ _ _ hfit]
    rfl
  · have hge := le_doubledUntil (b.length + items.length) b.capacity hcap
    have hroom : b.length + items.length ≤ (b.reallocate ⟨b.capacity,
        doubledUntil (b.length + items.length) b.capacity, b.length⟩).slots.size := by
      simp only [reallocate, Array.size_append, Array.size_extract, Array.size_replicate]
      unfold capacity at hlen hge ⊢
      omega
    simp only [hfit, if_false, if_pos (Nat.not_le.1 hfit)]
    rw [reallocate?_eq b hlen (by omega), Option.map_some, Option.bind_eq_bind, Option.bind_some,
      copyOver?_eq _ _ _ hroom]
    rfl

namespace WellFormed

variable {b : Buffer α}

theorem elements?_eq (hb : b.WellFormed) : b.elements? = some b.toList := by
  rw [elements?, part?_eq (Nat.zero_le _) hb.length_le, List.drop_zero]
  rfl

/-- Setting the length makes the move that is called for, and finds every slot that it asks
for. -/
theorem resize?_eq (hb : b.WellFormed) (length : Nat) :
    b.resize? length = some (b.resize length, b.resizeMove? length) := by
  have hlen := hb.length_le
  have hlt := lt_capacityFor length
  unfold resize? resize resizeMove?
  by_cases hcap : capacityFor length = b.capacity
  · simp only [hcap, ne_eq, not_true_eq_false, if_false, if_true]
    by_cases hshrink : length < b.length
    · rw [if_pos hshrink, fillOver?_eq (Nat.le_of_lt hshrink) hlen]
      rfl
    · rw [if_neg hshrink, show b.length - length = 0 by omega]
      rfl
  · simp only [hcap, ne_eq, not_false_eq_true, if_true, if_false]
    rw [reallocate?_eq b (by omega) (by omega)]
    rfl

end WellFormed

end Buffer

end ProgramSupport
