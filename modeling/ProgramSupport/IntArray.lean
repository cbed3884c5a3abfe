import ProgramSupport.Buffer
import ProgramSupport.Violation

/-!
# Growable arrays of machine integers

An integer array is a buffer of 64-bit integers whose capacity follows its size.  This file
provides

* `IntArray` with its makers `new`, `empty`, `ofList` and `collect`, and the view `toList`;
* `get`, `set` and `resize`, which check their argument and fail with a violation;
* `append`, `appendAll` and `clear`, which always succeed;
* `moveTo?` — the move of the storage, if any, on the way from one state to the next.

A call that fails returns no array, so the array it was given is all that is left.
-/

namespace ProgramSupport

/-- A growable sequence of 64-bit integers. -/
structure IntArray where
  buffer : Buffer Int64
deriving Repr, DecidableEq

namespace IntArray

/-! ### Observers -/

/-- The number of elements. -/
def size (a : IntArray) : Nat := a.buffer.length

/-- The number of slots. -/
def capacity (a : IntArray) : Nat := a.buffer.capacity

/-- The elements, in order. -/
def toList (a : IntArray) : List Int64 := a.buffer.toList

/-! ### Makers -/

/-- An array of `size` zeros. -/
def new (size : Int64) : Except Violation IntArray := do
  let length ← checkSize "IntArray::new" size
  return ⟨.zeroed length⟩

/-- The array without elements. -/
def empty : IntArray := ⟨.zeroed 0⟩

/-- The array of the given elements, made at its final size. -/
def ofList (values : List Int64) : IntArray :=
  ⟨(Buffer.zeroed values.length).write 0 values⟩

/-! ### Element access -/

/-- The element at an index. -/
def get (a : IntArray) (index : Int64) : Except Violation Int64 := do
  let slot ← checkIndex "IntArray::get" index a.size
  return (a.buffer.get? slot).getD 0

/-- Replace the element at an index. -/
def set (a : IntArray) (index value : Int64) : Except Violation IntArray := do
  let slot ← checkIndex "IntArray::set" index a.size
  return ⟨a.buffer.set slot value⟩

/-! ### Changing the size -/

/-- Cut the array off, or pad it with zeros, to `size` elements. -/
def resize (a : IntArray) (size : Int64) : Except Violation IntArray := do
  let length ← checkSize "IntArray::resize" size
  return ⟨a.buffer.resize length⟩

/-- Put one element behind the last. -/
def append (a : IntArray) (value : Int64) : IntArray :=
  ⟨(a.buffer.resize (a.size + 1)).set a.size value⟩

/-- Put the elements of another array, in order, behind the last.  An empty array changes
nothing. -/
def appendAll (a other : IntArray) : IntArray :=
  if other.buffer.isEmpty then a
  else ⟨(a.buffer.resize (a.size + other.size)).write a.size other.toList⟩

/-- Drop every element; one slot is left. -/
def clear (a : IntArray) : IntArray := ⟨a.buffer.resize 0⟩

/-- The array grown by one element at a time from the empty one. -/
def collect (values : List Int64) : IntArray := values.foldl append empty

/-! ### Storage -/

/-- The move of the storage on the way from `a` to `result`: an operation resizes at most
once, to the size it ends with. -/
def moveTo? (a result : IntArray) : Option Reallocation := a.buffer.resizeMove? result.size

end IntArray

example : (IntArray.collect [5, 7, 9]).buffer = ⟨#[5, 7, 9, 0], 3⟩ := by decide

end ProgramSupport
