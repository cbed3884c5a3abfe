import ProgramSupport.Proofs.Session.Holdings
import ProgramSupport.Proofs.Session.Reports

/-!
# Entry points on registers

A process that compiled code runs in calls entry points on its string and array registers.  What
it replies and holds is what registers of lists reply and hold.  This file provides

* `Answer.reply?` and `Outcome.reply?` — the reply that an answer or an outcome stands for;
* `Session.Shows` — a session whose registers hold these lists, and that is otherwise as another;
* `Session.Replies` — an operation that replies and leaves what is expected;
* `RegisterCall.operation_replies` — every call of an entry point is such an operation.

No settings are in effect in such a session, so nothing is logged.
-/

namespace ProgramSupport

open ProgramSupport.Action

/-- The reply that an answer stands for. -/
def Answer.reply? : Answer → Option Reply
  | .unit => some .unit
  | .int value => some (.int value)
  | .string value => some (.string value.bytes)
  | .array value => some (.array value.toList)
  | .flag _ | .settings _ | .environment _ => none

/-- The reply that an outcome stands for. -/
def Outcome.reply? : Outcome → Option Reply
  | .answered answer => answer.reply?
  | _ => none

namespace Session

/-! ### Registers that hold lists -/

/-- The registers of a session hold these lists, all arrays are well formed, and the rest is as in
another session. -/
structure Shows (origin s : Session) (h : Holdings) : Prop where
  rest_eq : s = { origin with strings := s.strings, arrays := s.arrays }
  strings_eq : s.strings.map (Option.map ByteString.bytes) = h.strings
  arrays_eq : s.arrays.map (Option.map IntArray.toList) = h.arrays
  wellFormed : ∀ a, some a ∈ s.arrays → a.WellFormed

variable {origin s : Session} {h : Holdings}

theorem held_map {α β : Type} (f : α → β) (registers : List (Option α)) (r : Register) :
    held (registers.map (Option.map f)) r = (held registers r).map f := by
  cases r with
  | none => rfl
  | some i =>
    show ((registers.map (Option.map f))[i]?).join = ((registers[i]?).join).map f
    rw [List.getElem?_map]
    cases registers[i]? with
    | none => rfl
    | some value => rfl

theorem replaced_map {α β : Type} (f : α → β) (registers : List (Option α)) (r : Register)
    (value : Option α) :
    (replaced registers r value).map (Option.map f) =
      replaced (registers.map (Option.map f)) r (value.map f) := by
  cases r with
  | none => rfl
  | some i => exact List.map_set

theorem mem_of_held {α : Type} {registers : List (Option α)} {r : Register} {value : α}
    (hheld : held registers r = some value) : some value ∈ registers := by
  cases r with
  | none => cases hheld
  | some i => exact List.mem_of_getElem? (Option.join_eq_some_iff.1 hheld)

theorem mem_replaced {α : Type} {registers : List (Option α)} {r : Register}
    {value other : Option α} (hmem : other ∈ replaced registers r value) :
    other ∈ registers ∨ other = value := by
  cases r with
  | none => exact .inl hmem
  | some i => exact List.mem_or_eq_of_mem_set hmem

namespace Shows

theorem held_strings (hs : Shows origin s h) (r : Register) :
    held h.strings r = (s.string? r).map ByteString.bytes := by
  rw [← hs.strings_eq, held_map]
  rfl

theorem held_arrays (hs : Shows origin s h) (r : Register) :
    held h.arrays r = (s.array? r).map IntArray.toList := by
  rw [← hs.arrays_eq, held_map]
  rfl

theorem addString (hs : Shows origin s h) (value : ByteString) :
    Shows origin { s with strings := s.strings ++ [some value] } (h.madeString value.bytes).2 where
  rest_eq := by
    rw [hs.rest_eq]
  strings_eq := by
    show (s.strings ++ [some value]).map (Option.map ByteString.bytes) = _
    rw [List.map_append, hs.strings_eq]
    rfl
  arrays_eq := hs.arrays_eq
  wellFormed := hs.wellFormed

theorem freeString (hs : Shows origin s h) (r : Register) :
    Shows origin { s with strings := replaced s.strings r none }
      { h with strings := replaced h.strings r none } where
  rest_eq := by
    rw [hs.rest_eq]
  strings_eq := by
    show (replaced s.strings r none).map (Option.map ByteString.bytes) = _
    rw [replaced_map, hs.strings_eq]
    rfl
  arrays_eq := hs.arrays_eq
  wellFormed := hs.wellFormed

theorem addArray (hs : Shows origin s h) {a : IntArray} {values : List Int64}
    (ha : a.Holds values) :
    Shows origin { s with arrays := s.arrays ++ [some a] } (h.madeArray values).2 where
  rest_eq := by
    rw [hs.rest_eq]
  strings_eq := hs.strings_eq
  arrays_eq := by
    show (s.arrays ++ [some a]).map (Option.map IntArray.toList) = _
    rw [List.map_append, hs.arrays_eq, List.map_singleton, Option.map_some, ha.2]
    rfl
  wellFormed b hb := by
    rcases List.mem_append.1 hb with hb | hb
    · exact hs.wellFormed b hb
    · cases List.mem_singleton.1 hb
      exact ha.1

/-- A register is given another array, or none. -/
theorem replaceArray (hs : Shows origin s h) (r : Register) {value : Option IntArray}
    (hvalue : ∀ a, value = some a → a.WellFormed) :
    Shows origin { s with arrays := replaced s.arrays r value }
      { h with arrays := replaced h.arrays r (value.map IntArray.toList) } where
  rest_eq := by
    rw [hs.rest_eq]
  strings_eq := hs.strings_eq
  arrays_eq := by
    show (replaced s.arrays r value).map (Option.map IntArray.toList) = _
    rw [replaced_map, hs.arrays_eq]
  wellFormed b hb := by
    rcases mem_replaced hb with hb | hb
    · exact hs.wellFormed b hb
    · exact hvalue b hb.symm

theorem settings_eq (hs : Shows origin s h) : s.settings = origin.settings := by
  rw [hs.rest_eq]

theorem breaks_eq (hs : Shows origin s h) : s.breaks? = origin.breaks? := by
  rw [hs.rest_eq]
  rfl

end Shows

/-! ### One operation -/

/-- An operation replies and leaves what is expected, or finds the expected violation and leaves
everything as it was. -/
def Replies (origin s : Session)
    (after : Except SplitCharacter (Except Violation Answer) × Session) :
    Except Violation (Reply × Holdings) → Prop
  | .ok (reply, h) =>
    ∃ answer, after.1 = .ok (.ok answer) ∧ answer.reply? = some reply ∧ Shows origin after.2 h
  | .error violation => after = (.ok (.error violation), s)

theorem withString_replies (hs : Shows origin s h) (op : String) (r : Register)
    {next : ByteString → Action (Except Violation Answer)}
    {expected : List UInt8 → Except Violation (Reply × Holdings)}
    (hnext : ∀ value, Replies origin s ((next value).on s) (expected value.bytes)) :
    Replies origin s ((withString op r next).on s) (needed op (held h.strings r) expected) := by
  rw [withString, on_get_bind, hs.held_strings]
  cases s.string? r with
  | none => rfl
  | some value => exact hnext value

theorem withArray_replies (hs : Shows origin s h) (op : String) (r : Register)
    {next : IntArray → Action (Except Violation Answer)}
    {expected : List Int64 → Except Violation (Reply × Holdings)}
    (hnext : ∀ a, a.WellFormed → Replies origin s ((next a).on s) (expected a.toList)) :
    Replies origin s ((withArray op r next).on s) (needed op (held h.arrays r) expected) := by
  rw [withArray, on_get_bind, hs.held_arrays]
  cases harray : s.array? r with
  | none => rfl
  | some a => exact hnext a (hs.wellFormed a (mem_of_held harray))

/-- An array that an operation may give is followed as the list that it may give. -/
theorem agree_replies {result : Except Violation IntArray} {expected : Except Violation (List Int64)}
    (hagree : Agree result expected) {next : IntArray → Action (Except Violation Answer)}
    {after : List Int64 → Reply × Holdings}
    (hnext : ∀ a values, a.Holds values → Replies origin s ((next a).on s) (.ok (after values))) :
    Replies origin s ((whenOk result next).on s) (followed expected after) := by
  match result, expected, hagree with
  | .ok a, .ok values, hagree => exact hnext a values hagree
  | .error violation, .error _, rfl => rfl

theorem answerString_replies (hs : Shows origin s h) (value : ByteString) :
    Replies origin s ((answerString value).on s) (.ok (h.madeString value.bytes)) :=
  ⟨.string value, rfl, rfl, hs.addString value⟩

theorem answerArray_replies (hunset : origin.settings = none) (hs : Shows origin s h)
    (r : Register) (old : IntArray) {new : IntArray} {values : List Int64}
    (hnew : new.Holds values) :
    Replies origin s ((answerArray r old new).on s) (.ok (h.storedArray r values)) := by
  have hquiet : movedNotices s old new = [] := by
    unfold movedNotices
    cases old.moveTo? new with
    | none => rfl
    | some move => exact recorded_of_unset (hs.settings_eq.trans hunset) _
  have hafter : ((answerArray r old new).on s).2 =
      { s with arrays := replaced s.arrays r (some new) } := by
    show ((storeArray r old new).run s).2 = _
    rw [storeArray_run, hquiet, List.append_nil]
    rfl
  have hvalue : ∀ a, some new = some a → a.WellFormed := by
    intro a ha
    cases ha
    exact hnew.1
  have hshows := hs.replaceArray r hvalue
  rw [Option.map_some, hnew.2] at hshows
  refine ⟨.array new, rfl, ?_, ?_⟩
  · show some (Reply.array new.toList) = some (.array values)
    rw [hnew.2]
  · rw [hafter]
    exact hshows

theorem stringNew_replies (hs : Shows origin s h) (bytes : Option (List UInt8)) (length : Int64) :
    Replies origin s ((Operation.stringNew bytes length).attempt.on s)
      (h.newString bytes length) := by
  unfold Holdings.newString
  rw [Operation.attempt, checkSize]
  by_cases hlength : 0 ≤ length.toInt
  · have hnot : ¬length.toInt < 0 := by omega
    rw [if_pos hlength, if_neg hnot]
    cases bytes with
    | some bytes => exact answerString_replies hs ⟨bytes.take length.toInt.toNat⟩
    | none =>
      show Replies origin s (Action.on (if length.toInt.toNat = 0 then _ else _) s)
        (if length.toInt = 0 then _ else _)
      by_cases hzero : length.toInt = 0
      · have hnat : length.toInt.toNat = 0 := by omega
        rw [if_pos hzero, if_pos hnat]
        exact answerString_replies hs .empty
      · have hnat : ¬length.toInt.toNat = 0 := by omega
        rw [if_neg hzero, if_neg hnat]
        rfl
  · have hneg : length.toInt < 0 := by omega
    rw [if_neg hlength, if_pos hneg]
    rfl

theorem charAt_replies (hs : Shows origin s h) (r : Register) (index : Int64) :
    Replies origin s ((Operation.charAt r index).attempt.on s) (h.step (.charAt r index)) := by
  refine withString_replies hs _ r fun value => ?_
  rw [ByteString.charAt, checkIndex]
  by_cases hindex : 0 ≤ index.toInt ∧ index.toInt < value.bytes.length
  · have hsize : 0 ≤ index.toInt ∧ index.toInt < value.size := hindex
    rw [if_pos hsize, if_pos hindex]
    exact ⟨_, rfl, rfl, hs⟩
  · have hsize : ¬(0 ≤ index.toInt ∧ index.toInt < value.size) := hindex
    rw [if_neg hsize, if_neg hindex]
    rfl

theorem substring_replies (hs : Shows origin s h) (r : Register) (start stop : Int64) :
    Replies origin s ((Operation.substring r start stop).attempt.on s)
      (h.step (.substring r start stop)) := by
  refine withString_replies hs _ r fun value => ?_
  rw [ByteString.substring]
  by_cases hrange :
      0 ≤ start.toInt ∧ start.toInt ≤ stop.toInt ∧ stop.toInt ≤ value.bytes.length
  · have hsize : 0 ≤ start.toInt ∧ start.toInt ≤ stop.toInt ∧ stop.toInt ≤ value.size := hrange
    rw [if_pos hsize, if_pos hrange]
    exact answerString_replies hs _
  · have hsize : ¬(0 ≤ start.toInt ∧ start.toInt ≤ stop.toInt ∧ stop.toInt ≤ value.size) := hrange
    rw [if_neg hsize, if_neg hrange]
    rfl

theorem freeString_run (r : Register) (s : Session) :
    ((freeString r).run s).2 = { s with strings := replaced s.strings r none } := by
  cases r <;> rfl

theorem freeArray_run (r : Register) (s : Session) :
    ((freeArray r).run s).2 = { s with arrays := replaced s.arrays r none } := by
  cases r <;> rfl

theorem arrayGet_replies (hs : Shows origin s h) (r : Register) (index : Int64) :
    Replies origin s ((Operation.arrayGet r index).attempt.on s) (h.step (.arrayGet r index)) := by
  refine withArray_replies hs _ r fun a ha => ?_
  have hget : a.get index = Elements.get a.toList index := IntArray.get_eq_elements ha index
  rw [hget]
  cases Elements.get a.toList index with
  | ok value => exact ⟨_, rfl, rfl, hs⟩
  | error violation => rfl

end Session

open Session

variable {origin s : Session} {h : Holdings}

/-- One call replies and leaves what registers of lists reply and are left as. -/
theorem RegisterCall.operation_replies (hunset : origin.settings = none)
    (hs : Shows origin s h) (call : RegisterCall) :
    Replies origin s (call.operation.attempt.on s) (h.step call) := by
  cases call with
  | stringNew bytes length => exact stringNew_replies hs bytes length
  | stringFree r =>
    refine ⟨.unit, rfl, rfl, ?_⟩
    show Shows origin ((freeString r).run s).2 _
    rw [freeString_run]
    exact hs.freeString r
  | stringSize r => exact withString_replies hs _ r fun value => ⟨_, rfl, rfl, hs⟩
  | charAt r index => exact charAt_replies hs r index
  | reverse r => exact withString_replies hs _ r fun value => answerString_replies hs value.reverse
  | concat r t =>
    exact withString_replies hs _ r fun value => withString_replies hs _ t fun other =>
      answerString_replies hs (value.concat other)
  | substring r start stop => exact substring_replies hs r start stop
  | arrayNew size =>
    refine agree_replies (IntArray.new_agree size) fun a values ha => ?_
    refine ⟨.array a, rfl, ?_, hs.addArray ha⟩
    show some (Reply.array a.toList) = some (.array values)
    rw [ha.2]
  | arrayFree r =>
    refine ⟨.unit, rfl, rfl, ?_⟩
    show Shows origin ((freeArray r).run s).2 _
    rw [freeArray_run]
    exact hs.replaceArray r fun a ha => by cases ha
  | arraySize r =>
    refine withArray_replies hs _ r fun a ha => ⟨_, rfl, ?_, hs⟩
    rw [ha.length_toList]
    rfl
  | arrayCapacity r =>
    refine withArray_replies hs _ r fun a ha => ⟨_, rfl, ?_, hs⟩
    rw [ha.length_toList, ← ha.capacity_eq]
    rfl
  | arrayGet r index => exact arrayGet_replies hs r index
  | arraySet r index value =>
    exact withArray_replies hs _ r fun a ha =>
      agree_replies (IntArray.set_agree ha index value) fun new values hnew =>
        answerArray_replies hunset hs r a hnew
  | arrayResize r size =>
    exact withArray_replies hs _ r fun a ha =>
      agree_replies (IntArray.resize_agree ha size) fun new values hnew =>
        answerArray_replies hunset hs r a hnew
  | arrayAppend r value =>
    exact withArray_replies hs _ r fun a ha =>
      answerArray_replies hunset hs r a (IntArray.append_view ha value)
  | arrayAppendAll r t =>
    exact withArray_replies hs _ t fun other hother => withArray_replies hs _ r fun a ha =>
      answerArray_replies hunset hs r a (IntArray.appendAll_view ha hother)
  | arrayClear r =>
    exact withArray_replies hs _ r fun a ha =>
      answerArray_replies hunset hs r a (IntArray.clear_view ha)

end ProgramSupport
