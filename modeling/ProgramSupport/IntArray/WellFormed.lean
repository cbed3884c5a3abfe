import ProgramSupport.Buffer.WellFormed
import ProgramSupport.IntArray

/-!
# Integer arrays as lists

An array is well formed when its buffer is and its capacity is the one that belongs to its
size.  Such an array is known by its elements alone.  This file provides

* `IntArray.WellFormed`, and `IntArray.WellFormed.eq_of` — equal elements make equal arrays;
* for each operation, that it keeps arrays well formed, and what it does to the list of the
  elements.
-/

namespace ProgramSupport.IntArray

/-- The buffer is well formed, and its capacity belongs to its size. -/
structure WellFormed (a : IntArray) : Prop where
  buffer : a.buffer.WellFormed
  capacity_eq : a.capacity = capacityFor a.size

namespace WellFormed

variable {a b : IntArray}

theorem length_toList (h : a.WellFormed) : a.toList.length = a.size := h.buffer.length_toList

/-- The elements make a well-formed array what it is. -/
theorem eq_of (ha : a.WellFormed) (hb : b.WellFormed) (h : a.toList = b.toList) : a = b := by
  have hsize : a.size = b.size := by rw [← ha.length_toList, h, hb.length_toList]
  have hcap : a.buffer.capacity = b.buffer.capacity := by
    show a.capacity = b.capacity
    rw [ha.capacity_eq, hb.capacity_eq, hsize]
  have hbuffer := ha.buffer.eq_of hb.buffer h hcap
  cases a
  cases b
  simpa using hbuffer

end WellFormed

/-! ### Makers -/

theorem zeroed_view (length : Nat) :
    (IntArray.mk (.zeroed length)).WellFormed ∧
      (IntArray.mk (.zeroed length)).toList = List.replicate length 0 :=
  ⟨⟨Buffer.wellFormed_zeroed length, Buffer.capacity_zeroed length⟩, Buffer.toList_zeroed length⟩

/-- A size that is not negative makes that many zeros. -/
theorem new_view {size : Int64} {a : IntArray} (h : new size = .ok a) :
    a.WellFormed ∧ a.toList = List.replicate size.toInt.toNat 0 := by
  unfold new at h
  cases hc : checkSize "IntArray::new" size with
  | error v => rw [hc] at h; cases h
  | ok length =>
    rw [hc] at h
    cases h
    rw [checkSize_eq_ok_iff.1 hc]
    exact zeroed_view length

theorem empty_view : empty.WellFormed ∧ empty.toList = [] := zeroed_view 0

theorem ofList_view (values : List Int64) :
    (ofList values).WellFormed ∧ (ofList values).toList = values := by
  have hz := Buffer.wellFormed_zeroed (α := Int64) values.length
  have h := Buffer.write_view hz 0 values (Nat.le_of_eq (Nat.zero_add _))
  refine ⟨⟨h.1, ?_⟩, ?_⟩
  · show ((Buffer.zeroed values.length).write 0 values).capacity = _
    rw [Buffer.capacity_write, Buffer.capacity_zeroed]
    rfl
  · show ((Buffer.zeroed values.length).write 0 values).toList = _
    rw [h.2, Buffer.toList_zeroed]
    simp

/-! ### Element access -/

/-- The element at an index is that of the list. -/
theorem get_eq_ok_iff {a : IntArray} (ha : a.WellFormed) {index value : Int64} :
    a.get index = .ok value ↔ ∃ i : Nat, index.toInt = i ∧ a.toList[i]? = some value := by
  unfold get
  cases hc : checkIndex "IntArray::get" index a.size with
  | error v =>
    constructor
    · intro h
      cases h
    · rintro ⟨i, hi, hv⟩
      have hlt := (List.getElem?_eq_some_iff.1 hv).1
      rw [ha.length_toList] at hlt
      rw [checkIndex_eq_ok_iff.2 ⟨hi, hlt⟩] at hc
      cases hc
  | ok slot =>
    obtain ⟨hslot, hlt⟩ := checkIndex_eq_ok_iff.1 hc
    have hlen : slot < a.toList.length := by rw [ha.length_toList]; exact hlt
    show Except.ok ((a.buffer.get? slot).getD 0) = _ ↔ _
    rw [Buffer.get?_eq_getElem?, show a.buffer.toList = a.toList from rfl,
      List.getElem?_eq_getElem hlen, Except.ok.injEq]
    constructor
    · intro h
      exact ⟨slot, hslot, by rw [List.getElem?_eq_getElem hlen]; exact congrArg some h⟩
    · rintro ⟨i, hi, hv⟩
      obtain rfl : slot = i := by omega
      rw [List.getElem?_eq_getElem hlen] at hv
      exact Option.some.inj hv

/-- Replacing an element replaces it in the list. -/
theorem set_view {a b : IntArray} (ha : a.WellFormed) {index value : Int64}
    (h : a.set index value = .ok b) :
    b.WellFormed ∧ b.toList = a.toList.set index.toInt.toNat value := by
  unfold set at h
  cases hc : checkIndex "IntArray::set" index a.size with
  | error v => rw [hc] at h; cases h
  | ok slot =>
    rw [hc] at h
    cases h
    obtain ⟨hslot, hlt⟩ := checkIndex_eq_ok_iff.1 hc
    have hw := Buffer.write_view ha.buffer slot [value] hlt
    refine ⟨⟨hw.1, ?_⟩, ?_⟩
    · show (a.buffer.write slot [value]).capacity = _
      rw [Buffer.capacity_write]
      exact ha.capacity_eq
    · show (a.buffer.write slot [value]).toList = _
      rw [hw.2, hslot, Int.toNat_natCast,
        List.set_eq_take_append_cons_drop, if_pos (by rw [ha.length_toList]; exact hlt)]
      simp [toList]

/-! ### Changing the size -/

theorem resized_view {a : IntArray} (ha : a.WellFormed) (length : Nat) :
    (IntArray.mk (a.buffer.resize length)).WellFormed ∧
      (IntArray.mk (a.buffer.resize length)).toList =
        a.toList.take length ++ List.replicate (length - a.size) 0 := by
  have h := Buffer.resize_view ha.buffer length
  refine ⟨⟨h.1, ?_⟩, h.2.1⟩
  show (a.buffer.resize length).capacity = capacityFor (a.buffer.resize length).length
  rw [h.2.2, Buffer.resize_eq]

/-- Setting the size cuts the list off or pads it with zeros. -/
theorem resize_view {a b : IntArray} (ha : a.WellFormed) {size : Int64}
    (h : a.resize size = .ok b) :
    b.WellFormed ∧
      b.toList = a.toList.take size.toInt.toNat ++
        List.replicate (size.toInt.toNat - a.size) 0 := by
  unfold resize at h
  cases hc : checkSize "IntArray::resize" size with
  | error v => rw [hc] at h; cases h
  | ok length =>
    rw [hc] at h
    cases h
    rw [checkSize_eq_ok_iff.1 hc]
    exact resized_view ha length

/-- An array that is grown and then written to from its old end on has the written items behind
its old elements. -/
theorem grown_view {a : IntArray} (ha : a.WellFormed) (items : List Int64) :
    (IntArray.mk ((a.buffer.resize (a.size + items.length)).write a.size items)).WellFormed ∧
      (IntArray.mk ((a.buffer.resize (a.size + items.length)).write a.size items)).toList =
        a.toList ++ items := by
  have hr := resized_view ha (a.size + items.length)
  have hlen : (a.buffer.resize (a.size + items.length)).length = a.size + items.length := by
    rw [Buffer.resize_eq]
  have hw := Buffer.write_view hr.1.buffer a.size items (Nat.le_of_eq hlen.symm)
  have hal := ha.length_toList
  refine ⟨⟨hw.1, ?_⟩, ?_⟩
  · show ((a.buffer.resize (a.size + items.length)).write a.size items).capacity = _
    rw [Buffer.capacity_write]
    exact hr.1.capacity_eq
  · show ((a.buffer.resize (a.size + items.length)).write a.size items).toList = _
    rw [hw.2]
    show (IntArray.mk _).toList.take _ ++ items ++ (IntArray.mk _).toList.drop _ = _
    have hgrown : (IntArray.mk (a.buffer.resize (a.size + items.length))).toList =
        a.toList ++ List.replicate items.length 0 := by
      rw [hr.2, List.take_of_length_le (Nat.le_trans (Nat.le_of_eq hal) (Nat.le_add_right _ _)),
        Nat.add_sub_cancel_left]
    have hle : (a.toList ++ List.replicate items.length 0).length = a.size + items.length := by
      rw [List.length_append, hal, List.length_replicate]
    rw [hgrown, List.take_left' hal, List.drop_eq_nil_of_le (by omega), List.append_nil]

/-- Appending an element appends it to the list. -/
theorem append_view {a : IntArray} (ha : a.WellFormed) (value : Int64) :
    (a.append value).WellFormed ∧ (a.append value).toList = a.toList ++ [value] :=
  grown_view ha [value]

/-- Appending an array appends its list. -/
theorem appendAll_view {a b : IntArray} (ha : a.WellFormed) (hb : b.WellFormed) :
    (a.appendAll b).WellFormed ∧ (a.appendAll b).toList = a.toList ++ b.toList := by
  unfold appendAll
  by_cases h : b.buffer.isEmpty = true
  · have hnil : b.toList = [] := by
      apply List.eq_nil_of_length_eq_zero
      rw [hb.length_toList]
      exact beq_iff_eq.1 h
    rw [if_pos h, hnil, List.append_nil]
    exact ⟨ha, rfl⟩
  · rw [if_neg h, ← hb.length_toList]
    exact grown_view ha b.toList

theorem clear_view {a : IntArray} (ha : a.WellFormed) :
    a.clear.WellFormed ∧ a.clear.toList = [] := by
  have h := resized_view ha 0
  rw [List.take_zero, Nat.zero_sub, List.replicate_zero, List.append_nil] at h
  exact h

theorem foldl_append_view {a : IntArray} (ha : a.WellFormed) (values : List Int64) :
    (values.foldl append a).WellFormed ∧ (values.foldl append a).toList = a.toList ++ values := by
  induction values generalizing a with
  | nil => exact ⟨ha, (List.append_nil _).symm⟩
  | cons value values ih =>
    have h := append_view ha value
    have hrest := ih h.1
    rw [h.2, List.append_assoc] at hrest
    exact hrest

/-- An array grown element by element has these elements. -/
theorem collect_view (values : List Int64) :
    (collect values).WellFormed ∧ (collect values).toList = values := by
  have h := foldl_append_view empty_view.1 values
  rw [empty_view.2, List.nil_append] at h
  exact h

end ProgramSupport.IntArray
