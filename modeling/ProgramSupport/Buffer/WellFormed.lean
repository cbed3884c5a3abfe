import ProgramSupport.Buffer

/-!
# Buffers with a zero tail

A buffer is well formed when it has a slot, no more elements than slots, and zeros in all slots
behind its elements.  Such a buffer is known by its elements and its capacity.  This file
provides

* `Buffer.WellFormed`, and `Buffer.WellFormed.eq_of` — two such buffers are equal when their
  elements and capacities are;
* what `zeroed`, `withCapacity`, `write`, `resize` and `extend` do to the elements and to the
  capacity, and that they keep buffers well formed.

Growing in place adds zeros only because the tail is zero, so the invariant is needed for the
elements that an operation leaves, and not for the slots alone.
-/

namespace ProgramSupport

/-! ### Overwriting -/

theorem getElem?_overwrite {α : Type} (slots : Array α) (start : Nat) (items : List α) (i : Nat) :
    (overwrite slots start items)[i]? =
      if start ≤ i ∧ i < start + items.length ∧ i < slots.size then items[i - start]?
      else slots[i]? := by
  induction items generalizing slots start with
  | nil =>
    rw [overwrite, if_neg]
    simp only [List.length_nil]
    omega
  | cons item items ih =>
    rw [overwrite, ih, Array.size_setIfInBounds, Array.getElem?_setIfInBounds]
    simp only [List.length_cons]
    by_cases hi : i < slots.size
    · by_cases hs : start = i
      · subst hs
        rw [if_neg (by omega), if_pos rfl, if_pos hi, if_pos (by omega), Nat.sub_self]
        rfl
      · by_cases hr : start + 1 ≤ i ∧ i < start + 1 + items.length
        · rw [if_pos (by omega), if_pos (by omega), show i - start = i - (start + 1) + 1 by omega]
          rfl
        · rw [if_neg (by omega), if_neg hs, if_neg (by omega)]
    · rw [if_neg (by omega)]
      by_cases hs : start = i
      · rw [if_pos hs, if_neg (by omega), if_neg (by omega), Array.getElem?_eq_none (by omega)]
      · rw [if_neg hs, if_neg (by omega)]

/-- Items that fit replace as many slots and leave the others alone. -/
theorem toList_overwrite {α : Type} (slots : Array α) (start : Nat) (items : List α)
    (h : start + items.length ≤ slots.size) :
    (overwrite slots start items).toList =
      slots.toList.take start ++ items ++ slots.toList.drop (start + items.length) := by
  apply List.ext_getElem?
  intro i
  rw [Array.getElem?_toList, getElem?_overwrite, List.append_assoc, List.getElem?_append]
  have hstart : (slots.toList.take start).length = start := by
    rw [List.length_take, Array.length_toList]
    omega
  rw [hstart]
  by_cases hi : i < start
  · rw [if_neg (by omega), if_pos hi, List.getElem?_take, if_pos hi, Array.getElem?_toList]
  · rw [if_neg hi, List.getElem?_append]
    by_cases hr : i < start + items.length
    · rw [if_pos (by omega), if_pos (by omega)]
    · rw [if_neg (by omega), if_neg (by omega), List.getElem?_drop, Array.getElem?_toList]
      congr 1
      omega

namespace Buffer

variable {α : Type} [Inhabited α]

omit [Inhabited α] in
theorem length_toList_of_le {b : Buffer α} (h : b.length ≤ b.capacity) :
    b.toList.length = b.length := by
  rw [toList, List.length_take, Array.length_toList]
  exact Nat.min_eq_left h

omit [Inhabited α] in
/-- Slots and length make a buffer what it is. -/
theorem eq_of_slots {b c : Buffer α} (hslots : b.slots = c.slots) (hlength : b.length = c.length) :
    b = c := by
  cases b
  cases c
  simp only [mk.injEq]
  exact ⟨hslots, hlength⟩

/-! ### The invariant -/

/-- A buffer has a slot, no more elements than slots, and zeros behind its elements. -/
structure WellFormed (b : Buffer α) : Prop where
  capacity_pos : 0 < b.capacity
  length_le : b.length ≤ b.capacity
  tail : b.slots.toList.drop b.length = List.replicate (b.capacity - b.length) default

namespace WellFormed

variable {b c : Buffer α}

theorem length_toList (h : b.WellFormed) : b.toList.length = b.length :=
  length_toList_of_le h.length_le

/-- The slots are the elements and then zeros. -/
theorem slots_toList (h : b.WellFormed) :
    b.slots.toList = b.toList ++ List.replicate (b.capacity - b.length) default := by
  rw [← h.tail, toList, List.take_append_drop]

/-- Elements and capacity make a well-formed buffer what it is. -/
theorem eq_of (hb : b.WellFormed) (hc : c.WellFormed) (helems : b.toList = c.toList)
    (hcap : b.capacity = c.capacity) : b = c := by
  have hlen : b.length = c.length := by
    rw [← hb.length_toList, helems, hc.length_toList]
  have hslots : b.slots = c.slots := by
    apply Array.toList_inj.1
    rw [hb.slots_toList, hc.slots_toList, helems, hcap, hlen]
  exact eq_of_slots hslots hlen

end WellFormed

/-- Slots that are some elements and then zeros make a well-formed buffer of these elements. -/
theorem wellFormed_of_slots {slots : Array α} {elements : List α} {spare : Nat}
    (h : slots.toList = elements ++ List.replicate spare default)
    (hpos : 0 < elements.length + spare) :
    (⟨slots, elements.length⟩ : Buffer α).WellFormed ∧
      (⟨slots, elements.length⟩ : Buffer α).toList = elements ∧
      (⟨slots, elements.length⟩ : Buffer α).capacity = elements.length + spare := by
  have hsize : slots.size = elements.length + spare := by
    rw [← Array.length_toList, h, List.length_append, List.length_replicate]
  refine ⟨⟨?_, ?_, ?_⟩, ?_, ?_⟩
  · rw [capacity, hsize]; exact hpos
  · rw [capacity, hsize]; exact Nat.le_add_right _ _
  · show slots.toList.drop elements.length = _
    rw [h, List.drop_left, capacity, hsize, Nat.add_sub_cancel_left]
  · show slots.toList.take elements.length = _
    rw [h, List.take_left]
  · exact hsize

/-! ### Makers -/

theorem toList_zeroed (length : Nat) :
    (zeroed length : Buffer α).toList = List.replicate length default := by
  rw [toList, zeroed, Array.toList_replicate, List.take_replicate,
    Nat.min_eq_left (Nat.le_of_lt (lt_capacityFor length))]

theorem capacity_zeroed (length : Nat) : (zeroed length : Buffer α).capacity = capacityFor length :=
  Array.size_replicate

theorem wellFormed_zeroed (length : Nat) : (zeroed length : Buffer α).WellFormed where
  capacity_pos := by rw [capacity_zeroed]; exact capacityFor_pos length
  length_le := by rw [capacity_zeroed]; exact Nat.le_of_lt (lt_capacityFor length)
  tail := by
    rw [capacity_zeroed, zeroed, Array.toList_replicate, List.drop_replicate]

theorem toList_withCapacity (count : Nat) : (withCapacity count : Buffer α).toList = [] := rfl

theorem capacity_withCapacity (count : Nat) :
    (withCapacity count : Buffer α).capacity = max count 1 :=
  Array.size_replicate

theorem wellFormed_withCapacity (count : Nat) : (withCapacity count : Buffer α).WellFormed where
  capacity_pos := by rw [capacity_withCapacity]; omega
  length_le := Nat.zero_le _
  tail := by
    rw [capacity_withCapacity, withCapacity, Array.toList_replicate, List.drop_zero, Nat.sub_zero]

/-! ### Writing -/

/-- Items inside the elements replace as many of them, and keep the buffer well formed. -/
theorem write_view {b : Buffer α} (hb : b.WellFormed) (start : Nat) (items : List α)
    (h : start + items.length ≤ b.length) :
    (b.write start items).WellFormed ∧
      (b.write start items).toList =
        b.toList.take start ++ items ++ b.toList.drop (start + items.length) := by
  have hlen := hb.length_le
  have hbl := hb.length_toList
  have hslots : (b.write start items).slots.toList =
      (b.toList.take start ++ items ++ b.toList.drop (start + items.length)) ++
        List.replicate (b.capacity - b.length) default := by
    rw [write, toList_overwrite _ _ _ (Nat.le_trans h hlen), hb.slots_toList,
      List.take_append_of_le_length (by omega), List.drop_append_of_le_length (by omega),
      List.append_assoc (_ ++ items)]
  have helems : (b.toList.take start ++ items ++
      b.toList.drop (start + items.length)).length = b.length := by
    simp only [List.length_append, List.length_take, List.length_drop, hbl]
    omega
  have hpos := hb.capacity_pos
  have hview := wellFormed_of_slots hslots (by rw [helems]; omega)
  rw [helems] at hview
  exact ⟨hview.1, hview.2.1⟩

/-! ### Setting the length -/

omit [Inhabited α] in
theorem resizeMove?_eq_none_iff (b : Buffer α) (length : Nat) :
    b.resizeMove? length = none ↔ capacityFor length = b.capacity := by
  unfold resizeMove?
  split <;> simp [*]

/-- The slots after setting the length: the elements below both lengths, and then zeros. -/
theorem slots_resize {b : Buffer α} (hb : b.WellFormed) (length : Nat) :
    (b.resize length).slots.toList =
      (b.toList.take length ++ List.replicate (length - b.length) default) ++
        List.replicate (capacityFor length - length) default := by
  have hlt := lt_capacityFor length
  have hlen := hb.length_le
  rw [List.append_assoc, List.replicate_append_replicate]
  unfold resize resizeMove?
  by_cases hcap : capacityFor length = b.capacity
  · rw [if_pos hcap]
    show (overwrite b.slots length _).toList = _
    by_cases hshrink : length ≤ b.length
    · rw [toList_overwrite _ _ _ (by
          rw [List.length_replicate]
          unfold capacity at hlen
          omega),
        List.length_replicate, show length + (b.length - length) = b.length by omega, hb.tail,
        List.append_assoc, List.replicate_append_replicate, toList, List.take_take,
        Nat.min_eq_left hshrink]
      congr 2
      omega
    · rw [show b.length - length = 0 by omega, List.replicate_zero, overwrite, hb.slots_toList,
        List.take_of_length_le (by rw [hb.length_toList]; omega)]
      congr 2
      omega
  · rw [if_neg hcap]
    show (b.slots.extract 0 (min b.length length) ++ Array.replicate _ default).toList = _
    rw [Array.toList_append, Array.toList_extract, Array.toList_replicate]
    simp only [List.extract_eq_take_drop, List.drop_zero, Nat.sub_zero]
    rw [toList, List.take_take, Nat.min_comm]
    congr 2
    omega

theorem resize_eq {b : Buffer α} (length : Nat) :
    b.resize length = ⟨(b.resize length).slots, length⟩ := by
  unfold resize
  split <;> rfl

/-- Setting the length keeps the buffer well formed, cuts its elements off or pads them with
zeros, and makes the capacity the one that belongs to the length. -/
theorem resize_view {b : Buffer α} (hb : b.WellFormed) (length : Nat) :
    (b.resize length).WellFormed ∧
      (b.resize length).toList =
        b.toList.take length ++ List.replicate (length - b.length) default ∧
      (b.resize length).capacity = capacityFor length := by
  have hlt := lt_capacityFor length
  have helems :
      (b.toList.take length ++ List.replicate (length - b.length) default).length = length := by
    rw [List.length_append, List.length_take, List.length_replicate, hb.length_toList]
    omega
  have h := wellFormed_of_slots (slots_resize hb length) (by rw [helems]; omega)
  rw [helems] at h
  rw [resize_eq]
  refine ⟨h.1, h.2.1, ?_⟩
  rw [h.2.2]
  omega

/-! ### Appending -/

omit [Inhabited α] in
theorem extendMove?_eq_none_iff (b : Buffer α) (count : Nat) :
    b.extendMove? count = none ↔ b.length + count ≤ b.capacity := by
  unfold extendMove?
  split <;> simp [*]

/-- The capacity after appending: doubled as often as the items need. -/
theorem capacity_extend {b : Buffer α} (hcap : 0 < b.capacity) (hlen : b.length ≤ b.capacity)
    (items : List α) :
    (b.extend items).capacity = doubledUntil (b.length + items.length) b.capacity := by
  unfold extend extendMove?
  by_cases hfit : b.length + items.length ≤ b.capacity
  · rw [if_pos hfit, doubledUntil, if_neg (by omega), capacity, size_overwrite, capacity]
  · have hge := le_doubledUntil (b.length + items.length) b.capacity hcap
    rw [if_neg hfit, capacity, size_overwrite]
    simp only [reallocate, Array.size_append, Array.size_extract, Array.size_replicate]
    unfold capacity at hlen hge ⊢
    omega

/-- What stands behind items that are appended: the old slots if the items fit, and zeros in fresh
storage. -/
def behind (b : Buffer α) (count : Nat) : List α :=
  if b.length + count ≤ b.capacity then b.slots.toList.drop (b.length + count)
  else List.replicate (doubledUntil (b.length + count) b.capacity - (b.length + count)) default

theorem slots_extend {b : Buffer α} (hcap : 0 < b.capacity) (hlen : b.length ≤ b.capacity)
    (items : List α) :
    (b.extend items).slots.toList = b.toList ++ items ++ b.behind items.length := by
  unfold behind extend extendMove?
  by_cases hfit : b.length + items.length ≤ b.capacity
  · rw [if_pos hfit, if_pos hfit]
    exact toList_overwrite _ _ _ hfit
  · have hge := le_doubledUntil (b.length + items.length) b.capacity hcap
    have hnew : (b.slots.extract 0 b.length ++
        Array.replicate (doubledUntil (b.length + items.length) b.capacity - b.length)
          default).toList =
        b.toList ++ List.replicate
          (doubledUntil (b.length + items.length) b.capacity - b.length) default := by
      rw [Array.toList_append, Array.toList_extract, Array.toList_replicate]
      simp only [List.extract_eq_take_drop, List.drop_zero, Nat.sub_zero]
      rfl
    have hbl := length_toList_of_le hlen
    rw [if_neg hfit, if_neg hfit]
    show (overwrite (b.slots.extract 0 b.length ++ Array.replicate _ default) _ _).toList = _
    rw [toList_overwrite _ _ _ (by
        rw [← Array.length_toList, hnew, List.length_append, List.length_replicate]
        omega),
      hnew, List.take_left' hbl, ← List.drop_drop, List.drop_left' hbl, List.drop_replicate,
      Nat.sub_sub]

/-- Appending keeps the buffer well formed and puts the items behind its elements. -/
theorem extend_view {b : Buffer α} (hb : b.WellFormed) (items : List α) :
    (b.extend items).WellFormed ∧ (b.extend items).toList = b.toList ++ items := by
  have hslots : (b.extend items).slots.toList = (b.toList ++ items) ++ List.replicate
      ((b.extend items).capacity - (b.length + items.length)) default := by
    rw [slots_extend hb.capacity_pos hb.length_le, capacity_extend hb.capacity_pos hb.length_le,
      behind]
    by_cases hfit : b.length + items.length ≤ b.capacity
    · rw [if_pos hfit, ← List.drop_drop, hb.tail, List.drop_replicate, doubledUntil,
        if_neg (by omega), Nat.sub_sub]
    · rw [if_neg hfit]
  have helems : (b.toList ++ items).length = b.length + items.length := by
    rw [List.length_append, hb.length_toList]
  have hge := self_le_doubledUntil (b.length + items.length) b.capacity
  have hcap := hb.capacity_pos
  have h := wellFormed_of_slots hslots (by
    rw [helems, capacity_extend hcap hb.length_le]
    omega)
  rw [helems] at h
  exact ⟨h.1, h.2.1⟩

end Buffer

end ProgramSupport
