import ProgramSupport.IntArray.WellFormed
import ProgramSupport.Proofs.Session.Escalation

/-!
# Arrays and the lists they stand for

A program works on any number of arrays, which it names by the order in which it made them.  The
same calls can be made on plain lists of machine integers.  This file provides

* `ArrayCall` — a call on arrays;
* `Shelf.step` and `Shelf.run` — calls made on arrays;
* `Elements` — the operations of lists, where each states its own condition and its own violation;
* `ArrayCall.onLists` and `ArrayCall.runOnLists` — the same calls made on lists, which say by
  themselves how a call ends and what it leaves;
* `IntArray.Holds` and `Agree` — an array that is well formed and has these elements, and a
  result that is such an array or the same violation;
* `Shelf.step_refines` and `Shelf.run_refines` — step by step, the arrays are well formed, their
  elements are the lists, and the outcomes are the same;
* `Shelf.Framed` — which arrays a call leaves as they are, slot by slot;
* `IntArray.ZeroTailed` — the slots of an array beside its elements.

The main statement is `Shelf.arrays_refine_lists`.
-/

namespace ProgramSupport

/-! ### Calls on arrays -/

/-- A call on arrays, which are named by their numbers. -/
inductive ArrayCall where
  | new (form : Form) (size : Int64)
  | empty
  | ofList (values : List Int64)
  /-- An array grown by one element at a time. -/
  | collect (values : List Int64)
  | clone (a : Nat)
  | get (form : Form) (a : Nat) (index : Int64)
  | set (form : Form) (a : Nat) (index value : Int64)
  | resize (form : Form) (a : Nat) (size : Int64)
  | append (a : Nat) (value : Int64)
  /-- Append the elements that `b` has before the call; `b` can be `a` itself. -/
  | appendAll (a b : Nat)
  | clear (a : Nat)
deriving Repr, DecidableEq

namespace Shelf

/-- An array that was made stands behind those made before. -/
def made (policy : Policy) (form : Form) (shelf : List IntArray) :
    Except Violation IntArray → Outcome × List IntArray
  | .ok array => (.answered .unit, shelf ++ [array])
  | .error violation => (form.fate policy violation, shelf)

/-- An array that was changed stands in its old place. -/
def changed (policy : Policy) (form : Form) (shelf : List IntArray) (a : Nat) :
    Except Violation IntArray → Outcome × List IntArray
  | .ok array => (.answered .unit, shelf.set a array)
  | .error violation => (form.fate policy violation, shelf)

/-- An element that was asked for is the answer. -/
def asked (policy : Policy) (form : Form) (shelf : List IntArray) :
    Except Violation Int64 → Outcome × List IntArray
  | .ok element => (.answered (.int element.toInt), shelf)
  | .error violation => (form.fate policy violation, shelf)

/-- Go on with the array of a number; a number that names none is passed over. -/
def withArray (shelf : List IntArray) (a : Nat) (next : IntArray → Outcome × List IntArray) :
    Outcome × List IntArray :=
  match shelf[a]? with
  | some array => next array
  | none => (.answered .unit, shelf)

/-- Make one call. -/
def step (policy : Policy) (shelf : List IntArray) : ArrayCall → Outcome × List IntArray
  | .new form size => made policy form shelf (IntArray.new size)
  | .empty => (.answered .unit, shelf ++ [.empty])
  | .ofList values => (.answered .unit, shelf ++ [.ofList values])
  | .collect values => (.answered .unit, shelf ++ [.collect values])
  | .clone a => withArray shelf a fun array => (.answered .unit, shelf ++ [array])
  | .get form a index => withArray shelf a fun array =>
    asked policy form shelf (array.get index)
  | .set form a index value => withArray shelf a fun array =>
    changed policy form shelf a (array.set index value)
  | .resize form a size => withArray shelf a fun array =>
    changed policy form shelf a (array.resize size)
  | .append a value => withArray shelf a fun array =>
    (.answered .unit, shelf.set a (array.append value))
  | .appendAll a b => withArray shelf a fun array => withArray shelf b fun other =>
    (.answered .unit, shelf.set a (array.appendAll other))
  | .clear a => withArray shelf a fun array => (.answered .unit, shelf.set a array.clear)

/-- Make calls one after another, and note the outcome of each and the arrays after it.  A call
that ends the process is the last. -/
def run (policy : Policy) (shelf : List IntArray) :
    List ArrayCall → List (Outcome × List IntArray)
  | [] => []
  | call :: calls =>
    let after := step policy shelf call
    after :: if after.1.ending?.isSome then [] else run policy after.2 calls

end Shelf

/-! ### The same calls on lists -/

/-- The elements of an array. -/
abbrev Elements := List Int64

namespace Elements

/-- As many zeros as a size says that is not negative. -/
def new (size : Int64) : Except Violation Elements :=
  if 0 ≤ size.toInt then .ok (List.replicate size.toInt.toNat 0)
  else .error (.negativeSize "IntArray::new" size.toInt)

/-- The element at an index that is a position. -/
def get (values : Elements) (index : Int64) : Except Violation Int64 :=
  if 0 ≤ index.toInt ∧ index.toInt < values.length then .ok (values.getD index.toInt.toNat 0)
  else .error (.indexOutOfBounds "IntArray::get" index.toInt values.length)

/-- Other elements at an index that is a position. -/
def set (values : Elements) (index value : Int64) : Except Violation Elements :=
  if 0 ≤ index.toInt ∧ index.toInt < values.length then
    .ok (List.set values index.toInt.toNat value)
  else .error (.indexOutOfBounds "IntArray::set" index.toInt values.length)

/-- The first elements, or all and zeros behind them, by a size that is not negative. -/
def resize (values : Elements) (size : Int64) : Except Violation Elements :=
  if 0 ≤ size.toInt then
    .ok (values.take size.toInt.toNat ++ List.replicate (size.toInt.toNat - values.length) 0)
  else .error (.negativeSize "IntArray::resize" size.toInt)

end Elements

namespace ArrayCall

/-- How a call ends that finds a violation: by returning it, by throwing it, or with the process. -/
def refusal (policy : Policy) (form : Form) (violation : Violation) : Outcome :=
  match form, policy with
  | .returning, _ => .refused violation
  | .failFast, .panic => .panicked violation
  | .failFast, .exit | .entry, _ => .exited violation

/-- Put a list in the place of another one, if there is one and no violation is found. -/
def replacing (policy : Policy) (form : Form) (lists : List Elements) (a : Nat) :
    Option (Except Violation Elements) → Outcome × List Elements
  | none => (.answered .unit, lists)
  | some (.ok values) => (.answered .unit, lists.modify a fun _ => values)
  | some (.error violation) => (refusal policy form violation, lists)

/-- Make one call on lists.  A call that finds a violation leaves them as they are, and so does one
with a number that names none. -/
def onLists (policy : Policy) (lists : List Elements) : ArrayCall → Outcome × List Elements
  | .new form size =>
    match Elements.new size with
    | .ok values => (.answered .unit, lists ++ [values])
    | .error violation => (refusal policy form violation, lists)
  | .empty => (.answered .unit, lists ++ [[]])
  | .ofList values | .collect values => (.answered .unit, lists ++ [values])
  | .clone a => (.answered .unit, lists ++ lists[a]?.toList)
  | .get form a index =>
    match lists[a]?.map (Elements.get · index) with
    | none => (.answered .unit, lists)
    | some (.ok element) => (.answered (.int element.toInt), lists)
    | some (.error violation) => (refusal policy form violation, lists)
  | .set form a index value =>
    replacing policy form lists a (lists[a]?.map (Elements.set · index value))
  | .resize form a size => replacing policy form lists a (lists[a]?.map (Elements.resize · size))
  | .append a value => (.answered .unit, lists.modify a (· ++ [value]))
  | .appendAll a b => (.answered .unit, lists.modify a (· ++ lists[b]?.getD []))
  | .clear a => (.answered .unit, lists.modify a fun _ => [])

/-- Make calls on lists one after another, up to the one that ends the process. -/
def runOnLists (policy : Policy) (lists : List Elements) :
    List ArrayCall → List (Outcome × List Elements)
  | [] => []
  | call :: calls =>
    let after := call.onLists policy lists
    match after.1 with
    | .exited _ | .aborted => [after]
    | .answered _ | .refused _ | .panicked _ | .brokenOff _ =>
      after :: runOnLists policy after.2 calls

/-- The number of the array that a call changes. -/
def changed? : ArrayCall → Option Nat
  | .set _ a _ _ | .resize _ a _ | .append a _ | .appendAll a _ | .clear a => some a
  | .new _ _ | .empty | .ofList _ | .collect _ | .clone _ | .get _ _ _ => none

end ArrayCall

/-! ### What a call leaves as it is -/

namespace Shelf

/-- Arrays besides the one that a call changes are left as they were, slot by slot, and if the call
is not answered, all of them are and there are no others. -/
structure Framed (call : ArrayCall) (shelf : List IntArray) (after : Outcome × List IntArray) :
    Prop where
  others : ∀ i < shelf.length, call.changed? ≠ some i → after.2[i]? = shelf[i]?
  unanswered : (∀ answer, after.1 ≠ .answered answer) → after.2 = shelf

variable {policy : Policy} {shelf : List IntArray}

theorem framed_of_eq {call : ArrayCall} {after : Outcome × List IntArray} (h : after.2 = shelf) :
    Framed call shelf after where
  others _ _ _ := by rw [h]
  unanswered _ := h

theorem pushed_framed (call : ArrayCall) (array : IntArray) :
    Framed call shelf (.answered .unit, shelf ++ [array]) where
  others _ hi _ := List.getElem?_append_left hi
  unanswered h := absurd rfl (h .unit)

theorem replaced_framed {call : ArrayCall} {a : Nat} (ha : call.changed? = some a)
    (array : IntArray) : Framed call shelf (.answered .unit, shelf.set a array) where
  others i _ hi := by
    refine List.getElem?_set_ne ?_
    rintro rfl
    exact hi ha
  unanswered h := absurd rfl (h .unit)

theorem made_framed (call : ArrayCall) (form : Form) (result : Except Violation IntArray) :
    Framed call shelf (made policy form shelf result) := by
  cases result with
  | ok array => exact pushed_framed call array
  | error violation => exact framed_of_eq rfl

theorem changed_framed {call : ArrayCall} {a : Nat} (ha : call.changed? = some a) (form : Form)
    (result : Except Violation IntArray) :
    Framed call shelf (changed policy form shelf a result) := by
  cases result with
  | ok array => exact replaced_framed ha array
  | error violation => exact framed_of_eq rfl

theorem asked_framed (call : ArrayCall) (form : Form) (result : Except Violation Int64) :
    Framed call shelf (asked policy form shelf result) := by
  cases result <;> exact framed_of_eq rfl

theorem withArray_framed {call : ArrayCall} (a : Nat) {next : IntArray → Outcome × List IntArray}
    (hnext : ∀ array, Framed call shelf (next array)) :
    Framed call shelf (withArray shelf a next) := by
  unfold withArray
  cases shelf[a]? with
  | none => exact framed_of_eq rfl
  | some array => exact hnext array

theorem step_framed (policy : Policy) (shelf : List IntArray) (call : ArrayCall) :
    Framed call shelf (step policy shelf call) := by
  cases call with
  | new form size => exact made_framed _ form _
  | empty => exact pushed_framed _ _
  | ofList values => exact pushed_framed _ _
  | collect values => exact pushed_framed _ _
  | clone a => exact withArray_framed a fun array => pushed_framed _ _
  | get form a index => exact withArray_framed a fun array => asked_framed _ form _
  | set form a index value => exact withArray_framed a fun array => changed_framed rfl form _
  | resize form a size => exact withArray_framed a fun array => changed_framed rfl form _
  | append a value => exact withArray_framed a fun array => replaced_framed rfl _
  | appendAll a b =>
    exact withArray_framed a fun array => withArray_framed b fun other => replaced_framed rfl _
  | clear a => exact withArray_framed a fun array => replaced_framed rfl _

end Shelf

/-! ### Operations of arrays and of lists -/

/-- An array is well formed and has these elements. -/
def IntArray.Holds (a : IntArray) (values : List Int64) : Prop := a.WellFormed ∧ a.toList = values

/-- Both results are the same violation, or an array and the list of its elements. -/
def Agree : Except Violation IntArray → Except Violation Elements → Prop
  | .ok a, .ok values => a.Holds values
  | .error violation, .error expected => violation = expected
  | _, _ => False

namespace IntArray

/-- A size that is not negative can be set. -/
theorem resize_ok (a : IntArray) {size : Int64} (h : 0 ≤ size.toInt) :
    ∃ b, a.resize size = .ok b := by
  refine ⟨⟨a.buffer.resize size.toInt.toNat⟩, ?_⟩
  rw [IntArray.resize, checkSize, if_pos h]
  rfl

theorem new_agree (size : Int64) : Agree (new size) (Elements.new size) := by
  unfold Elements.new
  by_cases h : 0 ≤ size.toInt
  · have hnew : new size = .ok ⟨.zeroed size.toInt.toNat⟩ := by
      rw [new, checkSize, if_pos h]
      rfl
    rw [if_pos h, hnew]
    exact new_view hnew
  · rw [if_neg h, new, checkSize, if_neg h]
    rfl

variable {a : IntArray}

theorem get_eq_elements (ha : a.WellFormed) (index : Int64) :
    a.get index = Elements.get a.toList index := by
  rw [Elements.get, ha.length_toList]
  by_cases h : 0 ≤ index.toInt ∧ index.toInt < a.size
  · rw [if_pos h, get_eq_ok_iff ha]
    have hlt : index.toInt.toNat < a.toList.length := by
      rw [ha.length_toList]
      omega
    refine ⟨index.toInt.toNat, by omega, ?_⟩
    rw [List.getD_eq_getElem?_getD, List.getElem?_eq_getElem hlt, Option.getD_some]
  · rw [if_neg h, get, checkIndex, if_neg h]
    rfl

theorem set_agree (ha : a.WellFormed) (index value : Int64) :
    Agree (a.set index value) (Elements.set a.toList index value) := by
  rw [Elements.set, ha.length_toList]
  by_cases h : 0 ≤ index.toInt ∧ index.toInt < a.size
  · have hset : a.set index value = .ok ⟨a.buffer.set index.toInt.toNat value⟩ := by
      rw [set, checkIndex, if_pos h]
      rfl
    rw [if_pos h, hset]
    exact set_view ha hset
  · rw [if_neg h, set, checkIndex, if_neg h]
    rfl

theorem resize_agree (ha : a.WellFormed) (size : Int64) :
    Agree (a.resize size) (Elements.resize a.toList size) := by
  rw [Elements.resize, ha.length_toList]
  by_cases h : 0 ≤ size.toInt
  · obtain ⟨b, hresize⟩ := resize_ok a h
    rw [if_pos h, hresize]
    exact resize_view ha hresize
  · rw [if_neg h, resize, checkSize, if_neg h]
    rfl

end IntArray

/-! ### Arrays hold the lists -/

namespace Shelf

variable {policy : Policy} {shelf : List IntArray} {lists : List Elements}

/-- The arrays are well formed, and their elements are the lists. -/
structure Refines (shelf : List IntArray) (lists : List Elements) : Prop where
  wellFormed : ∀ a ∈ shelf, a.WellFormed
  map_toList : shelf.map IntArray.toList = lists

/-- The same outcome, and arrays that hold the lists. -/
def Follows (after : Outcome × List IntArray) (expected : Outcome × List Elements) : Prop :=
  after.1 = expected.1 ∧ Refines after.2 expected.2

theorem refines_nil : Refines [] [] := ⟨fun _ ha => absurd ha List.not_mem_nil, rfl⟩

namespace Refines

/-- A number names no array and no list, or an array and the list of its elements. -/
theorem named (h : Refines shelf lists) (i : Nat) :
    (shelf[i]? = none ∧ lists[i]? = none) ∨
      ∃ a, shelf[i]? = some a ∧ lists[i]? = some a.toList ∧ a.WellFormed := by
  rw [← h.map_toList, List.getElem?_map]
  cases ha : shelf[i]? with
  | none => exact .inl ⟨rfl, rfl⟩
  | some a => exact .inr ⟨a, rfl, rfl, h.wellFormed a (List.mem_of_getElem? ha)⟩

theorem push (h : Refines shelf lists) {a : IntArray} {values : Elements}
    (ha : a.Holds values) : Refines (shelf ++ [a]) (lists ++ [values]) where
  wellFormed b hb := by
    rcases List.mem_append.1 hb with hb | hb
    · exact h.wellFormed b hb
    · rw [List.mem_singleton.1 hb]
      exact ha.1
  map_toList := by rw [List.map_append, h.map_toList, List.map_singleton, ha.2]

/-- An array in its old place, as its list is changed. -/
theorem modify (h : Refines shelf lists) {i : Nat} {old new : IntArray} {f : Elements → Elements}
    (hold : lists[i]? = some old.toList) (hnew : new.Holds (f old.toList)) :
    Refines (shelf.set i new) (lists.modify i f) where
  wellFormed b hb := by
    rcases List.mem_or_eq_of_mem_set hb with hb | rfl
    · exact h.wellFormed b hb
    · exact hnew.1
  map_toList := by
    rw [List.map_set, h.map_toList, hnew.2, List.modify_eq_set, hold, Option.getD_some]

end Refines

/-- Go on with the array of a number as with the list of its elements. -/
theorem withArray_follows (h : Refines shelf lists) (a : Nat)
    {next : IntArray → Outcome × List IntArray} {expected : Outcome × List Elements}
    (hnone : lists[a]? = none → expected = (.answered .unit, lists))
    (hsome : ∀ array, lists[a]? = some array.toList → array.WellFormed →
      Follows (next array) expected) : Follows (withArray shelf a next) expected := by
  unfold withArray
  obtain ⟨harray, hlist⟩ | ⟨array, harray, hlist, hwf⟩ := h.named a
  · rw [harray, hnone hlist]
    exact ⟨rfl, h⟩
  · rw [harray]
    exact hsome array hlist hwf

theorem fate_eq_refusal (policy : Policy) (form : Form) (violation : Violation) :
    form.fate policy violation = ArrayCall.refusal policy form violation := by
  cases form <;> cases policy <;> rfl

/-- A change that an array may refuse follows the same change of its list. -/
theorem changed_follows (h : Refines shelf lists) (form : Form) {a : Nat} {array : IntArray}
    (ha : lists[a]? = some array.toList) {result : Except Violation IntArray}
    {expected : Except Violation Elements} (hr : Agree result expected) :
    Follows (changed policy form shelf a result)
      (ArrayCall.replacing policy form lists a (some expected)) := by
  match result, expected, hr with
  | .ok new, .ok values, hr => exact ⟨rfl, h.modify ha hr⟩
  | .error violation, .error _, rfl => exact ⟨fate_eq_refusal policy form violation, h⟩

/-- A change that no array refuses follows the same change of its list. -/
theorem replaced_follows (h : Refines shelf lists) (a : Nat) {next : IntArray → IntArray}
    {f : Elements → Elements}
    (hnext : ∀ array, array.WellFormed → (next array).Holds (f array.toList)) :
    Follows (withArray shelf a fun array => (.answered .unit, shelf.set a (next array)))
      (.answered .unit, lists.modify a f) := by
  refine withArray_follows h a (fun hnone => ?_) fun array ha hwf => ?_
  · rw [List.modify_eq_self (List.getElem?_eq_none_iff.1 hnone)]
  · exact ⟨rfl, h.modify ha (hnext array hwf)⟩

/-- One call has the same outcome on arrays as on their lists, and the arrays it leaves hold the
lists it leaves. -/
theorem step_refines (h : Refines shelf lists) (call : ArrayCall) :
    Follows (step policy shelf call) (call.onLists policy lists) := by
  cases call with
  | new form size =>
    have hr := IntArray.new_agree size
    rw [step, ArrayCall.onLists]
    match IntArray.new size, Elements.new size, hr with
    | .ok a, .ok values, hr => exact ⟨rfl, h.push hr⟩
    | .error violation, .error _, rfl => exact ⟨fate_eq_refusal policy form violation, h⟩
  | empty => exact ⟨rfl, h.push IntArray.empty_view⟩
  | ofList values => exact ⟨rfl, h.push (IntArray.ofList_view values)⟩
  | collect values => exact ⟨rfl, h.push (IntArray.collect_view values)⟩
  | clone a =>
    rw [step, ArrayCall.onLists]
    refine withArray_follows h a (fun hnone => ?_) fun array ha hwf => ?_
    · rw [hnone, Option.toList_none, List.append_nil]
    · rw [ha]
      exact ⟨rfl, h.push ⟨hwf, rfl⟩⟩
  | get form a index =>
    rw [step, ArrayCall.onLists]
    refine withArray_follows h a (fun hnone => by rw [hnone]; rfl) fun array ha hwf => ?_
    rw [ha, IntArray.get_eq_elements hwf, Option.map_some]
    cases Elements.get array.toList index with
    | ok element => exact ⟨rfl, h⟩
    | error violation => exact ⟨fate_eq_refusal policy form violation, h⟩
  | set form a index value =>
    rw [step, ArrayCall.onLists]
    refine withArray_follows h a (fun hnone => by rw [hnone]; rfl) fun array ha hwf => ?_
    rw [ha]
    exact changed_follows h form ha (IntArray.set_agree hwf index value)
  | resize form a size =>
    rw [step, ArrayCall.onLists]
    refine withArray_follows h a (fun hnone => by rw [hnone]; rfl) fun array ha hwf => ?_
    rw [ha]
    exact changed_follows h form ha (IntArray.resize_agree hwf size)
  | append a value => exact replaced_follows h a fun array hwf => IntArray.append_view hwf value
  | appendAll a b =>
    rw [step, ArrayCall.onLists]
    refine withArray_follows h a (fun hnone => ?_) fun array ha hwf => ?_
    · rw [List.modify_eq_self (List.getElem?_eq_none_iff.1 hnone)]
    · refine withArray_follows h b (fun hnone => ?_) fun other hb hwf' => ?_
      · -- Nothing is appended by a number that names no list.
        simp only [hnone, Option.getD_none, List.append_nil]
        exact congrArg _ (List.modify_id a lists)
      · rw [hb, Option.getD_some]
        exact ⟨rfl, h.modify ha (IntArray.appendAll_view hwf hwf')⟩
  | clear a => exact replaced_follows h a fun array hwf => IntArray.clear_view hwf

/-- The elements of all arrays after a call. -/
def view (after : Outcome × List IntArray) : Outcome × List Elements :=
  (after.1, after.2.map IntArray.toList)

/-- All calls of a run have the same outcomes on arrays as on their lists, and leave well-formed
arrays that hold the lists. -/
theorem run_refines (h : Refines shelf lists) (calls : List ArrayCall) :
    (run policy shelf calls).map view = ArrayCall.runOnLists policy lists calls ∧
      ∀ after ∈ run policy shelf calls, ∀ a ∈ after.2, a.WellFormed := by
  induction calls generalizing shelf lists with
  | nil => exact ⟨rfl, fun after hafter => absurd hafter List.not_mem_nil⟩
  | cons call calls ih =>
    obtain ⟨houtcome, hrest⟩ := @step_refines policy _ _ h call
    obtain ⟨hmap, hwf⟩ := ih hrest
    have hview : view (step policy shelf call) = call.onLists policy lists :=
      Prod.ext houtcome hrest.map_toList
    unfold run ArrayCall.runOnLists
    simp only [List.map_cons, hview, houtcome, List.mem_cons, forall_eq_or_imp]
    -- Both runs go on after the same outcomes.
    cases (call.onLists policy lists).1 with
    | exited _ | aborted => exact ⟨rfl, hrest.wellFormed, by simp [Outcome.ending?]⟩
    | answered _ | refused _ | panicked _ | brokenOff _ =>
      exact ⟨congrArg _ hmap, hrest.wellFormed, hwf⟩

end Shelf

/-! ### Slots behind the elements -/

namespace IntArray

/-- The capacity belongs to the size and is above it, and the slots behind the elements are
zero. -/
structure ZeroTailed (a : IntArray) : Prop where
  capacity_eq : a.capacity = capacityFor a.size
  size_lt : a.size < a.capacity
  slot_eq_zero : ∀ i, a.size ≤ i → i < a.capacity → a.buffer.slots[i]? = some 0

theorem WellFormed.zeroTailed {a : IntArray} (ha : a.WellFormed) : a.ZeroTailed where
  capacity_eq := ha.capacity_eq
  size_lt := by
    rw [ha.capacity_eq]
    exact lt_capacityFor a.size
  slot_eq_zero i hi hlt := by
    have htail := congrArg (·[i - a.size]?) ha.buffer.tail
    simp only [List.getElem?_drop, List.getElem?_replicate] at htail
    have hsize : a.buffer.length = a.size := rfl
    have hcap : a.buffer.capacity = a.capacity := rfl
    rw [hsize, hcap, if_pos (by omega), show a.size + (i - a.size) = i by omega] at htail
    rw [← Array.getElem?_toList]
    exact htail

/-- What a smaller size has dropped does not come back with a greater one. -/
theorem WellFormed.regrown {a : IntArray} (ha : a.WellFormed) {less more : Int64}
    (hless : 0 ≤ less.toInt) (hmore : 0 ≤ more.toInt) :
    ∃ b c, a.resize less = .ok b ∧ b.resize more = .ok c ∧
      ∀ i, less.toInt.toNat ≤ i → i < more.toInt.toNat → c.toList[i]? = some 0 := by
  obtain ⟨b, hb⟩ := resize_ok a hless
  obtain ⟨c, hc⟩ := resize_ok b hmore
  obtain ⟨hbwf, hbelems⟩ := resize_view ha hb
  obtain ⟨-, hcelems⟩ := resize_view hbwf hc
  have hsize : b.size = less.toInt.toNat := by
    rw [← hbwf.length_toList, hbelems, List.length_append, List.length_take,
      List.length_replicate, ha.length_toList]
    omega
  have hlen : b.toList.length = less.toInt.toNat := by rw [hbwf.length_toList, hsize]
  refine ⟨b, c, hb, hc, fun i hi hlt => ?_⟩
  -- Position `i` is behind all that is left of `b`, so it lies in the new zeros.
  rw [hcelems, List.take_of_length_le (by omega), List.getElem?_append_right (by omega),
    List.getElem?_replicate, if_pos (by omega)]

/-- An array that is cleared grows from zeros on. -/
theorem WellFormed.cleared {a : IntArray} (ha : a.WellFormed) {more : Int64}
    (hmore : 0 ≤ more.toInt) :
    ∃ c, a.clear.resize more = .ok c ∧ c.toList = List.replicate more.toInt.toNat 0 := by
  obtain ⟨hbwf, hbelems⟩ := clear_view ha
  obtain ⟨c, hc⟩ := resize_ok a.clear hmore
  obtain ⟨-, hcelems⟩ := resize_view hbwf hc
  refine ⟨c, hc, ?_⟩
  rw [hcelems, ← hbwf.length_toList, hbelems, List.take_nil, List.nil_append, List.length_nil,
    Nat.sub_zero]

end IntArray

/-! ### Any run from no arrays -/

/-- Calls on arrays, whatever they are and in whatever order, have the outcomes of the same calls
on lists and leave arrays that hold these lists; these outcomes are what the forms of a call make
of a violation under the policy; all arrays have their capacity and zeros behind their elements
after every call; a call leaves every array but the one it changes as it was, slot by slot, and all
of them if it is not answered; and what an array has dropped does not come back when it grows. -/
theorem Shelf.arrays_refine_lists (policy : Policy) (calls : List ArrayCall) :
    (run policy [] calls).map view = ArrayCall.runOnLists policy [] calls ∧
      (∀ (s : Session) (form : Form) (violation : Violation), s.policyInForce = policy →
        s.breaks? = none → ((form.deliver (.error violation)).on s).1 =
          .ok (ArrayCall.refusal policy form violation)) ∧
      (∀ after ∈ run policy [] calls, ∀ a ∈ after.2, a.ZeroTailed) ∧
      (∀ shelf call, Framed call shelf (step policy shelf call)) ∧
      ∀ after ∈ run policy [] calls, ∀ a ∈ after.2, ∀ more : Int64, 0 ≤ more.toInt →
        (∀ less : Int64, 0 ≤ less.toInt →
          ∃ b c, a.resize less = .ok b ∧ b.resize more = .ok c ∧
            ∀ i, less.toInt.toNat ≤ i → i < more.toInt.toNat → c.toList[i]? = some 0) ∧
          ∃ c, a.clear.resize more = .ok c ∧ c.toList = List.replicate more.toInt.toNat 0 := by
  obtain ⟨hmap, hwf⟩ := @run_refines policy _ _ refines_nil calls
  refine ⟨hmap, fun s form violation hpolicy hbreaks => ?_,
    fun after hafter a ha => (hwf after hafter a ha).zeroTailed,
    fun shelf call => step_framed policy shelf call, fun after hafter a ha more hmore => ?_⟩
  · rw [Form.deliver_error_fate hbreaks, hpolicy, fate_eq_refusal]
  · exact ⟨fun less hless => (hwf after hafter a ha).regrown hless hmore,
      (hwf after hafter a ha).cleared hmore⟩

/-- A run with calls of all forms that find violations.  The last call is not made. -/
theorem Shelf.arrays_refine_lists_refused :
    (run .panic [] [.new .failFast 3, .set .returning 0 2 5, .set .returning 0 3 9,
        .resize .failFast 0 (-1), .clone 0, .resize .returning 0 1, .appendAll 0 0,
        .resize .entry 0 4, .get .failFast 1 (-1), .get .returning 1 2, .clear 1,
        .new .entry (-2), .empty]).map view =
      [(.answered .unit, [[0, 0, 0]]),
        (.answered .unit, [[0, 0, 5]]),
        (.refused (.indexOutOfBounds "IntArray::set" 3 3), [[0, 0, 5]]),
        (.panicked (.negativeSize "IntArray::resize" (-1)), [[0, 0, 5]]),
        (.answered .unit, [[0, 0, 5], [0, 0, 5]]),
        (.answered .unit, [[0], [0, 0, 5]]),
        (.answered .unit, [[0, 0], [0, 0, 5]]),
        (.answered .unit, [[0, 0, 0, 0], [0, 0, 5]]),
        (.panicked (.indexOutOfBounds "IntArray::get" (-1) 3), [[0, 0, 0, 0], [0, 0, 5]]),
        (.answered (.int 5), [[0, 0, 0, 0], [0, 0, 5]]),
        (.answered .unit, [[0, 0, 0, 0], []]),
        (.exited (.negativeSize "IntArray::new" (-2)), [[0, 0, 0, 0], []])] :=
  (arrays_refine_lists .panic _).1.trans (by decide +kernel)

end ProgramSupport
