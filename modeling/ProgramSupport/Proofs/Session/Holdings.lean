import ProgramSupport.Proofs.IntArray.Refinement

/-!
# Registers of lists

Compiled code holds strings and arrays in registers, which it passes to entry points.  The same
registers can hold plain lists of bytes and of machine integers.  This file provides

* `RegisterCall` — a call of an entry point on strings and arrays, and `RegisterCall.operation`,
  the operation that it does;
* `Holdings` — registers of lists, where a freed register holds nothing, and `Reply`;
* `Holdings.step` — what a call replies and leaves, or the precondition that fails first;
* `Holdings.run` — calls one after another, up to the first failure;
* `Holdings.step_frame` — a call changes no register but the one that it names for it.

Preconditions are checked in the order in which they stand here: null before index and range,
the second array before the first, and the sign of a length before the null reference.
-/

namespace ProgramSupport

/-! ### Calls -/

/-- A call of an entry point on strings and arrays. -/
inductive RegisterCall where
  | stringNew (bytes : Option (List UInt8)) (length : Int64)
  | stringFree (s : Register)
  | stringSize (s : Register)
  | charAt (s : Register) (index : Int64)
  | reverse (s : Register)
  | concat (s t : Register)
  | substring (s : Register) (start stop : Int64)
  | arrayNew (size : Int64)
  | arrayFree (a : Register)
  | arraySize (a : Register)
  | arrayCapacity (a : Register)
  | arrayGet (a : Register) (index : Int64)
  | arraySet (a : Register) (index value : Int64)
  | arrayResize (a : Register) (size : Int64)
  | arrayAppend (a : Register) (value : Int64)
  /-- Append the elements of `b` to `a`, which can be the same register. -/
  | arrayAppendAll (a b : Register)
  | arrayClear (a : Register)
deriving Repr, DecidableEq

namespace RegisterCall

/-- The operation that a call does. -/
def operation : RegisterCall → Operation
  | .stringNew bytes length => .stringNew bytes length
  | .stringFree s => .stringFree s
  | .stringSize s => .stringSize s
  | .charAt s index => .charAt s index
  | .reverse s => .reverse s
  | .concat s t => .concat s t
  | .substring s start stop => .substring s start stop
  | .arrayNew size => .arrayNew size
  | .arrayFree a => .arrayFree a
  | .arraySize a => .arraySize a
  | .arrayCapacity a => .arrayCapacity a
  | .arrayGet a index => .arrayGet a index
  | .arraySet a index value => .arraySet a index value
  | .arrayResize a size => .arrayResize a size
  | .arrayAppend a value => .arrayAppend a value
  | .arrayAppendAll a b => .arrayAppendAll a b
  | .arrayClear a => .arrayClear a

/-- The call of the process. -/
def entry (call : RegisterCall) : Call := .operation .entry call.operation

/-- The string register that a call changes: the one it frees. -/
def changedString : RegisterCall → Register
  | .stringFree s => s
  | _ => none

/-- The array register that a call changes: the one it names first. -/
def changedArray : RegisterCall → Register
  | .arrayFree a | .arraySet a _ _ | .arrayResize a _ | .arrayAppend a _
  | .arrayAppendAll a _ | .arrayClear a => a
  | _ => none

end RegisterCall

/-! ### Registers -/

/-- What a call replies. -/
inductive Reply where
  | unit
  | int (value : Int)
  | string (bytes : List UInt8)
  | array (values : List Int64)
deriving Repr, DecidableEq

/-- Registers of lists. -/
structure Holdings where
  strings : List (Option (List UInt8)) := []
  arrays : List (Option (List Int64)) := []
deriving Repr, DecidableEq

/-- What a register holds; nothing for the null reference and for a freed register. -/
def held {α : Type} (registers : List (Option α)) (r : Register) : Option α :=
  r.bind fun i => (registers[i]?).join

/-- Replace what a register holds.  There is nothing behind the null reference to replace. -/
def replaced {α : Type} (registers : List (Option α)) (r : Register) (value : Option α) :
    List (Option α) :=
  match r with
  | none => registers
  | some i => registers.set i value

/-- Go on with a value that a register has to hold. -/
def needed {α β : Type} (op : String) (value : Option α) (next : α → Except Violation β) :
    Except Violation β :=
  match value with
  | some value => next value
  | none => .error (.nullValue op)

/-- Reply with a result and what follows from it, unless it is a violation. -/
def followed {α β : Type} (result : Except Violation α) (next : α → β) : Except Violation β :=
  match result with
  | .ok value => .ok (next value)
  | .error violation => .error violation

namespace Holdings

/-- A string in a new register. -/
def madeString (h : Holdings) (bytes : List UInt8) : Reply × Holdings :=
  (.string bytes, { h with strings := h.strings ++ [some bytes] })

/-- An array in a new register. -/
def madeArray (h : Holdings) (values : List Int64) : Reply × Holdings :=
  (.array values, { h with arrays := h.arrays ++ [some values] })

/-- An array in its old register. -/
def storedArray (h : Holdings) (a : Register) (values : List Int64) : Reply × Holdings :=
  (.array values, { h with arrays := replaced h.arrays a (some values) })

/-- A string from the first `length` of some bytes, or of none for a null reference. -/
def newString (h : Holdings) (bytes : Option (List UInt8)) (length : Int64) :
    Except Violation (Reply × Holdings) :=
  if length.toInt < 0 then .error (.negativeSize "String::new" length.toInt)
  else
    match bytes with
    | some bytes => .ok (h.madeString (bytes.take length.toInt.toNat))
    | none =>
      if length.toInt = 0 then .ok (h.madeString []) else .error (.nullValue "String::new")

/-- Make a call: the reply and the registers after it, or the first precondition that fails. -/
def step (h : Holdings) : RegisterCall → Except Violation (Reply × Holdings)
  | .stringNew bytes length => h.newString bytes length
  | .stringFree s => .ok (.unit, { h with strings := replaced h.strings s none })
  | .stringSize s => needed "String::size" (held h.strings s) fun bytes =>
    .ok (.int bytes.length, h)
  | .charAt s index => needed "String::char_at" (held h.strings s) fun bytes =>
    if 0 ≤ index.toInt ∧ index.toInt < bytes.length then
      .ok (.int (bytes.getD index.toInt.toNat 0).toNat, h)
    else .error (.indexOutOfBounds "String::char_at" index.toInt bytes.length)
  | .reverse s => needed "String::reverse" (held h.strings s) fun bytes =>
    .ok (h.madeString bytes.reverse)
  | .concat s t => needed "String::concat" (held h.strings s) fun bytes =>
    needed "String::concat" (held h.strings t) fun others => .ok (h.madeString (bytes ++ others))
  | .substring s start stop => needed "String::substring" (held h.strings s) fun bytes =>
    if 0 ≤ start.toInt ∧ start.toInt ≤ stop.toInt ∧ stop.toInt ≤ bytes.length then
      .ok (h.madeString ((bytes.take stop.toInt.toNat).drop start.toInt.toNat))
    else .error (.invalidRange "String::substring" start.toInt stop.toInt bytes.length)
  | .arrayNew size => followed (Elements.new size) h.madeArray
  | .arrayFree a => .ok (.unit, { h with arrays := replaced h.arrays a none })
  | .arraySize a => needed "IntArray::size" (held h.arrays a) fun values =>
    .ok (.int values.length, h)
  | .arrayCapacity a => needed "IntArray::capacity" (held h.arrays a) fun values =>
    .ok (.int (capacityFor values.length), h)
  | .arrayGet a index => needed "IntArray::get" (held h.arrays a) fun values =>
    followed (Elements.get values index) fun value => (.int value.toInt, h)
  | .arraySet a index value => needed "IntArray::set" (held h.arrays a) fun values =>
    followed (Elements.set values index value) (h.storedArray a)
  | .arrayResize a size => needed "IntArray::resize" (held h.arrays a) fun values =>
    followed (Elements.resize values size) (h.storedArray a)
  | .arrayAppend a value => needed "IntArray::append" (held h.arrays a) fun values =>
    .ok (h.storedArray a (values ++ [value]))
  | .arrayAppendAll a b => needed "IntArray::append_all" (held h.arrays b) fun others =>
    needed "IntArray::append_all" (held h.arrays a) fun values =>
      .ok (h.storedArray a (values ++ others))
  | .arrayClear a => needed "IntArray::clear" (held h.arrays a) fun _ => .ok (h.storedArray a [])

/-- Make calls one after another, up to the first failure: the replies, the registers at the
end, and the violation that ended the run, if one did. -/
def run : List RegisterCall → Holdings → List Reply × Holdings × Option Violation
  | [], h => ([], h, none)
  | call :: calls, h =>
    match h.step call with
    | .error violation => ([], h, some violation)
    | .ok (reply, after) =>
      let (replies, final) := run calls after
      (reply :: replies, final)

/-! ### Frames -/

/-- Old registers keep what they hold, but for one register of each kind. -/
def Frames (h after : Holdings) (s a : Register) : Prop :=
  (∀ i < h.strings.length, s ≠ some i → after.strings[i]? = h.strings[i]?) ∧
    ∀ i < h.arrays.length, a ≠ some i → after.arrays[i]? = h.arrays[i]?

variable {h : Holdings}

theorem frames_refl (h : Holdings) (s a : Register) : Frames h h s a :=
  ⟨fun _ _ _ => rfl, fun _ _ _ => rfl⟩

theorem getElem?_replaced {α : Type} (registers : List (Option α)) {r : Register}
    (value : Option α) {i : Nat} (hi : r ≠ some i) :
    (replaced registers r value)[i]? = registers[i]? := by
  cases r with
  | none => rfl
  | some j => exact List.getElem?_set_ne fun hj => hi (congrArg some hj)

theorem madeString_frames (h : Holdings) (bytes : List UInt8) (s a : Register) :
    Frames h (h.madeString bytes).2 s a :=
  ⟨fun _ hi _ => List.getElem?_append_left hi, fun _ _ _ => rfl⟩

theorem madeArray_frames (h : Holdings) (values : List Int64) (s a : Register) :
    Frames h (h.madeArray values).2 s a :=
  ⟨fun _ _ _ => rfl, fun _ hi _ => List.getElem?_append_left hi⟩

theorem storedArray_frames (h : Holdings) (a : Register) (values : List Int64) (s : Register) :
    Frames h (h.storedArray a values).2 s a :=
  ⟨fun _ _ _ => rfl, fun _ _ hi => getElem?_replaced _ _ hi⟩

/-- The registers of every reply are framed. -/
def AllFramed (h : Holdings) (s a : Register) (result : Except Violation (Reply × Holdings)) :
    Prop :=
  ∀ after, result = .ok after → Frames h after.2 s a

theorem AllFramed.ok {s a : Register} {after : Reply × Holdings} (hframes : Frames h after.2 s a) :
    AllFramed h s a (.ok after) := by
  intro other heq
  cases heq
  exact hframes

theorem AllFramed.error (s a : Register) (violation : Violation) :
    AllFramed h s a (.error violation) := by
  intro other heq
  cases heq

theorem AllFramed.needed {α : Type} {s a : Register} (op : String) (value : Option α)
    {next : α → Except Violation (Reply × Holdings)}
    (hnext : ∀ value, AllFramed h s a (next value)) :
    AllFramed h s a (needed op value next) := by
  cases value with
  | none => exact .error s a _
  | some value => exact hnext value

theorem AllFramed.followed {α : Type} {s a : Register} (result : Except Violation α)
    {next : α → Reply × Holdings} (hnext : ∀ value, Frames h (next value).2 s a) :
    AllFramed h s a (followed result next) := by
  cases result with
  | error violation => exact .error s a _
  | ok value => exact .ok (hnext value)

theorem newString_framed (h : Holdings) (bytes : Option (List UInt8)) (length : Int64)
    (s a : Register) : AllFramed h s a (h.newString bytes length) := by
  unfold newString
  split
  · exact .error s a _
  · cases bytes with
    | some bytes => exact .ok (madeString_frames h _ s a)
    | none =>
      show AllFramed h s a (if length.toInt = 0 then _ else _)
      split
      · exact .ok (madeString_frames h _ s a)
      · exact .error s a _

/-- A call changes no register but the one that it names for it, and makes new ones behind the
old. -/
theorem step_frame (h : Holdings) (call : RegisterCall) :
    AllFramed h call.changedString call.changedArray (h.step call) := by
  cases call with
  | stringNew bytes length => exact newString_framed h bytes length _ _
  | stringFree s => exact .ok ⟨fun _ _ hi => getElem?_replaced _ _ hi, fun _ _ _ => rfl⟩
  | stringSize s => exact .needed _ _ fun bytes => .ok (frames_refl h _ _)
  | charAt s index =>
    refine .needed _ _ fun bytes => ?_
    split
    · exact .ok (frames_refl h _ _)
    · exact .error _ _ _
  | reverse s => exact .needed _ _ fun bytes => .ok (madeString_frames h _ _ _)
  | concat s t =>
    exact .needed _ _ fun bytes => .needed _ _ fun others => .ok (madeString_frames h _ _ _)
  | substring s start stop =>
    refine .needed _ _ fun bytes => ?_
    split
    · exact .ok (madeString_frames h _ _ _)
    · exact .error _ _ _
  | arrayNew size => exact .followed _ fun values => madeArray_frames h values _ _
  | arrayFree a => exact .ok ⟨fun _ _ _ => rfl, fun _ _ hi => getElem?_replaced _ _ hi⟩
  | arraySize a => exact .needed _ _ fun values => .ok (frames_refl h _ _)
  | arrayCapacity a => exact .needed _ _ fun values => .ok (frames_refl h _ _)
  | arrayGet a index =>
    exact .needed _ _ fun values => .followed _ fun value => frames_refl h _ _
  | arraySet a index value =>
    exact .needed _ _ fun values => .followed _ fun after => storedArray_frames h a after _
  | arrayResize a size =>
    exact .needed _ _ fun values => .followed _ fun after => storedArray_frames h a after _
  | arrayAppend a value => exact .needed _ _ fun values => .ok (storedArray_frames h a _ _)
  | arrayAppendAll a b =>
    exact .needed _ _ fun others => .needed _ _ fun values => .ok (storedArray_frames h a _ _)
  | arrayClear a => exact .needed _ _ fun values => .ok (storedArray_frames h a _ _)

end Holdings

end ProgramSupport
