import ProgramSupport.Buffer.Capacity

/-!
# Growable zero-filled storage

A buffer is an array of slots of which the first `length` hold its elements; the slots behind
them hold `default`, which is zero for bytes and for machine integers.  This file provides

* `Buffer` with its two constructors `zeroed` and `withCapacity`, and the view `toList`;
* `overwrite` — writing a list into consecutive slots;
* `Reallocation` — a move of the elements to fresh storage, and `Buffer.reallocate`;
* `resize` — setting the length, with the capacity that `capacityFor` gives to it;
* `extend` — appending a list, doubling the capacity only when the list does not fit;
* `set` and `fill`, which write elements in place.

Whether `resize` and `extend` move the storage is decided by `resizeMove?` and `extendMove?`,
so that a caller can report the move.
-/

namespace ProgramSupport

/-- Slots of which the first `length` are elements. -/
structure Buffer (α : Type) where
  slots : Array α
  length : Nat
deriving Repr, DecidableEq

/-- A move of the first `kept` elements from storage of one capacity to fresh storage of
another. -/
structure Reallocation where
  oldCapacity : Nat
  newCapacity : Nat
  kept : Nat
deriving Repr, DecidableEq

/-! ### Writing consecutive slots -/

/-- Write the items of a list into the slots from `start` on; what would fall behind the last
slot is dropped. -/
def overwrite {α : Type} (slots : Array α) (start : Nat) : List α → Array α
  | [] => slots
  | item :: items => overwrite (slots.setIfInBounds start item) (start + 1) items

@[simp] theorem size_overwrite {α : Type} (slots : Array α) (start : Nat) (items : List α) :
    (overwrite slots start items).size = slots.size := by
  induction items generalizing slots start with
  | nil => rfl
  | cons item items ih => simp [overwrite, ih]

namespace Buffer

variable {α : Type}

/-! ### Observers -/

/-- The number of slots. -/
def capacity (b : Buffer α) : Nat := b.slots.size

/-- The elements of the buffer, in order. -/
def toList (b : Buffer α) : List α := b.slots.toList.take b.length

def isEmpty (b : Buffer α) : Bool := b.length == 0

/-- The element at a position, if the position holds one. -/
def get? (b : Buffer α) (i : Nat) : Option α :=
  if i < b.length then b.slots[i]? else none

theorem get?_eq_getElem? (b : Buffer α) (i : Nat) : b.get? i = b.toList[i]? := by
  simp [get?, toList, List.getElem?_take]

/-! ### Construction -/

variable [Inhabited α]

/-- A buffer of `length` zeros, with the capacity that belongs to this length. -/
def zeroed (length : Nat) : Buffer α :=
  ⟨Array.replicate (capacityFor length) default, length⟩

/-- An empty buffer with `capacity` slots, at least one. -/
def withCapacity (capacity : Nat) : Buffer α :=
  ⟨Array.replicate (max capacity 1) default, 0⟩

/-! ### Changing the length -/

/-- Move the kept elements into fresh storage, whose other slots are zero. -/
def reallocate (b : Buffer α) (move : Reallocation) : Buffer α :=
  { b with
    slots := b.slots.extract 0 move.kept ++
      Array.replicate (move.newCapacity - move.kept) default }

/-- The move that setting the length to `length` calls for: none when the capacity that
belongs to the new length is the one in use. -/
def resizeMove? (b : Buffer α) (length : Nat) : Option Reallocation :=
  if capacityFor length = b.capacity then none
  else some ⟨b.capacity, capacityFor length, min b.length length⟩

/-- Set the length.  Elements below both lengths stay, all others are zero afterwards: fresh
storage is zero already, and storage that stays in use is cleared behind a smaller length. -/
def resize (b : Buffer α) (length : Nat) : Buffer α :=
  match b.resizeMove? length with
  | some move => { b.reallocate move with length }
  | none =>
    { slots := overwrite b.slots length (List.replicate (b.length - length) default), length }

/-- The move that appending `count` items calls for: none as long as they fit. -/
def extendMove? (b : Buffer α) (count : Nat) : Option Reallocation :=
  if b.length + count ≤ b.capacity then none
  else some ⟨b.capacity, doubledUntil (b.length + count) b.capacity, b.length⟩

/-- Append items, doubling the capacity as often as they need and no oftener. -/
def extend (b : Buffer α) (items : List α) : Buffer α :=
  let roomy := match b.extendMove? items.length with
    | some move => b.reallocate move
    | none => b
  ⟨overwrite roomy.slots b.length items, b.length + items.length⟩

/-! ### Writing elements -/

omit [Inhabited α]

/-- Write the items into the buffer from position `start` on. -/
def write (b : Buffer α) (start : Nat) (items : List α) : Buffer α :=
  { b with slots := overwrite b.slots start items }

/-- Replace the element at a position. -/
def set (b : Buffer α) (i : Nat) (value : α) : Buffer α := b.write i [value]

/-- Replace every element by one value. -/
def fill (b : Buffer α) (value : α) : Buffer α := b.write 0 (List.replicate b.length value)

@[simp] theorem capacity_write (b : Buffer α) (start : Nat) (items : List α) :
    (b.write start items).capacity = b.capacity := by simp [write, capacity]

@[simp] theorem length_write (b : Buffer α) (start : Nat) (items : List α) :
    (b.write start items).length = b.length := rfl

end Buffer

example : ((Buffer.zeroed 3 : Buffer Nat).write 0 [1, 2, 3] |>.resize 2) = ⟨#[1, 2, 0, 0], 2⟩ := by
  decide

end ProgramSupport
