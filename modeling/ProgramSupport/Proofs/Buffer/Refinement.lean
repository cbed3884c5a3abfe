import ProgramSupport.Proofs.Buffer.Slices

/-!
# Buffers and the lists they stand for

A program works on any number of buffers, which it names by the order in which it made them.  Some
follow the capacity that belongs to their length, others double a capacity that was chosen, and
both kinds of operation can meet in one buffer.  This file provides

* `BufferCall` — a call on buffers, with `BufferCall.step` and `BufferCall.run`, which make calls on
  buffers;
* `BufferCall.onLists` and `BufferCall.runOnLists` — the same calls made on lists, which have no
  capacity;
* `BufferCall.step_refines` and `BufferCall.run_refines` — step by step, the buffers are well
  formed and their elements are the lists;
* `LeastDoubling` — the capacity that appending asks for;
* `Buffer.Sound` — what holds of a well-formed buffer and of what can be done to it next;
* `Buffer.WellFormed.resize_eq_of_toList` — setting the length forgets all but the elements.

The main statement is `BufferCall.buffers_refine_lists`.
-/

namespace ProgramSupport

/-! ### Calls on buffers -/

/-- A call on buffers, which are named by their numbers. -/
inductive BufferCall (α : Type) where
  | zeroed (length : Nat)
  | withCapacity (capacity : Nat)
  | clone (b : Nat)
  | resize (b length : Nat)
  | extend (b : Nat) (items : List α)
  /-- Write items over as many elements, from one position on. -/
  | write (b start : Nat) (items : List α)
  /-- Write one value over all elements. -/
  | fill (b : Nat) (value : α)
deriving Repr, DecidableEq

namespace BufferCall

variable {α : Type} [Inhabited α]

/-- Make one call: the buffers after it.  A number that names no buffer is passed over, and so are
items that are to be written over more than the elements. -/
def step (row : List (Buffer α)) : BufferCall α → List (Buffer α)
  | .zeroed length => row ++ [.zeroed length]
  | .withCapacity capacity => row ++ [.withCapacity capacity]
  | .clone b => row ++ row[b]?.toList
  | .resize b length => row.modify b (·.resize length)
  | .extend b items => row.modify b (·.extend items)
  | .write b start items => row.modify b fun buffer =>
    if start + items.length ≤ buffer.length then buffer.write start items else buffer
  | .fill b value => row.modify b (·.fill value)

/-- Make calls one after another: the buffers after each of them. -/
def run (row : List (Buffer α)) : List (BufferCall α) → List (List (Buffer α))
  | [] => []
  | call :: calls => call.step row :: run (call.step row) calls

/-! ### The same calls on lists -/

/-- Make one call on lists: the lists after it. -/
def onLists (lists : List (List α)) : BufferCall α → List (List α)
  | .zeroed length => lists ++ [List.replicate length default]
  | .withCapacity _ => lists ++ [[]]
  | .clone b =>
    match lists[b]? with
    | some values => lists ++ [values]
    | none => lists
  | .resize b length => lists.modify b fun values =>
    values.take length ++ List.replicate (length - values.length) default
  | .extend b items => lists.modify b (· ++ items)
  | .write b start items => lists.modify b fun values =>
    if start + items.length ≤ values.length then
      values.take start ++ items ++ values.drop (start + items.length)
    else values
  | .fill b value => lists.modify b (·.map fun _ => value)

/-- Make calls on lists one after another: the lists after each of them. -/
def runOnLists (lists : List (List α)) : List (BufferCall α) → List (List (List α))
  | [] => []
  | call :: calls => call.onLists lists :: runOnLists (call.onLists lists) calls

end BufferCall

/-! ### Operations of buffers and of lists -/

namespace Buffer

variable {α : Type} [Inhabited α]

/-- A buffer is well formed and has these elements. -/
def Holds (b : Buffer α) (values : List α) : Prop := b.WellFormed ∧ b.toList = values

variable {b : Buffer α} {values : List α}

theorem Holds.length_eq (h : b.Holds values) : values.length = b.length := by
  rw [← h.2, h.1.length_toList]

theorem Holds.resize (h : b.Holds values) (length : Nat) :
    (b.resize length).Holds
      (values.take length ++ List.replicate (length - values.length) default) := by
  obtain ⟨hwf, helems, -⟩ := resize_view h.1 length
  refine ⟨hwf, ?_⟩
  rw [helems, h.2, h.length_eq]

theorem Holds.extend (h : b.Holds values) (items : List α) :
    (b.extend items).Holds (values ++ items) := by
  obtain ⟨hwf, helems⟩ := extend_view h.1 items
  refine ⟨hwf, ?_⟩
  rw [helems, h.2]

theorem Holds.write (h : b.Holds values) (start : Nat) (items : List α) :
    Holds (if start + items.length ≤ b.length then b.write start items else b)
      (if start + items.length ≤ values.length then
        values.take start ++ items ++ values.drop (start + items.length)
      else values) := by
  rw [h.length_eq]
  by_cases hfits : start + items.length ≤ b.length
  · rw [if_pos hfits, if_pos hfits, ← h.2]
    exact write_view h.1 start items hfits
  · rw [if_neg hfits, if_neg hfits]
    exact h

theorem Holds.fill (h : b.Holds values) (value : α) :
    (b.fill value).Holds (values.map fun _ => value) := by
  have hlength : 0 + (List.replicate b.length value).length = b.length := by
    rw [List.length_replicate, Nat.zero_add]
  obtain ⟨hwf, helems⟩ := write_view h.1 0 _ (Nat.le_of_eq hlength)
  refine ⟨hwf, ?_⟩
  show (b.write 0 (List.replicate b.length value)).toList = _
  rw [helems, hlength, List.map_const', h.length_eq, ← h.1.length_toList, List.drop_length,
    List.append_nil, List.take_zero, List.nil_append]

end Buffer

namespace BufferCall

variable {α : Type} [Inhabited α] {row : List (Buffer α)} {lists : List (List α)}

/-- The buffers are well formed, and their elements are the lists. -/
structure Refines (row : List (Buffer α)) (lists : List (List α)) : Prop where
  wellFormed : ∀ b ∈ row, b.WellFormed
  map_toList : row.map Buffer.toList = lists

theorem Refines.push (h : Refines row lists) {b : Buffer α} {values : List α}
    (hb : b.Holds values) : Refines (row ++ [b]) (lists ++ [values]) where
  wellFormed c hc := by
    rcases List.mem_append.1 hc with hc | hc
    · exact h.wellFormed c hc
    · rw [List.mem_singleton.1 hc]
      exact hb.1
  map_toList := by rw [List.map_append, h.map_toList, List.map_singleton, hb.2]

theorem Refines.clone (h : Refines row lists) (b : Nat) :
    Refines (row ++ row[b]?.toList)
      (match lists[b]? with
      | some values => lists ++ [values]
      | none => lists) := by
  rw [← h.map_toList, List.getElem?_map]
  cases hb : row[b]? with
  | none =>
    simp only [Option.map_none, Option.toList_none, List.append_nil]
    exact ⟨h.wellFormed, rfl⟩
  | some buffer =>
    exact Refines.push ⟨h.wellFormed, rfl⟩ ⟨h.wellFormed buffer (List.mem_of_getElem? hb), rfl⟩

/-- Changing one buffer as its list is changed. -/
theorem Refines.modify (h : Refines row lists) (b : Nat) {f : Buffer α → Buffer α}
    {g : List α → List α} (hchange : ∀ c values, c.Holds values → (f c).Holds (g values)) :
    Refines (row.modify b f) (lists.modify b g) where
  wellFormed c hc := by
    obtain ⟨i, hi⟩ := List.mem_iff_getElem?.1 hc
    rw [List.getElem?_modify] at hi
    obtain ⟨old, hold, rfl⟩ := Option.map_eq_some_iff.1 hi
    have hwf := h.wellFormed old (List.mem_of_getElem? hold)
    split
    · exact (hchange old _ ⟨hwf, rfl⟩).1
    · exact hwf
  map_toList := by
    apply List.ext_getElem?
    intro i
    rw [List.getElem?_map, List.getElem?_modify, List.getElem?_modify, ← h.map_toList,
      List.getElem?_map, Option.map_eq_map, Option.map_eq_map]
    cases hold : row[i]? with
    | none => rfl
    | some old =>
      have hwf := h.wellFormed old (List.mem_of_getElem? hold)
      simp only [Option.map_some, Option.some.injEq]
      by_cases hi : b = i
      · rw [if_pos hi, if_pos hi]
        exact (hchange old _ ⟨hwf, rfl⟩).2
      · rw [if_neg hi, if_neg hi]

/-- One call leaves buffers that hold the lists it leaves. -/
theorem step_refines (h : Refines row lists) (call : BufferCall α) :
    Refines (call.step row) (call.onLists lists) := by
  cases call with
  | zeroed length => exact h.push ⟨Buffer.wellFormed_zeroed length, Buffer.toList_zeroed length⟩
  | withCapacity capacity =>
    exact h.push ⟨Buffer.wellFormed_withCapacity capacity, Buffer.toList_withCapacity capacity⟩
  | clone b => exact h.clone b
  | resize b length => exact h.modify b fun c values hc => hc.resize length
  | extend b items => exact h.modify b fun c values hc => hc.extend items
  | write b start items => exact h.modify b fun c values hc => hc.write start items
  | fill b value => exact h.modify b fun c values hc => hc.fill value

/-- All calls of a run leave well-formed buffers that hold the lists. -/
theorem run_refines (h : Refines row lists) (calls : List (BufferCall α)) :
    (run row calls).map (·.map Buffer.toList) = runOnLists lists calls ∧
      ∀ after ∈ run row calls, ∀ b ∈ after, b.WellFormed := by
  induction calls generalizing row lists with
  | nil => exact ⟨rfl, fun after hafter => absurd hafter List.not_mem_nil⟩
  | cons call calls ih =>
    have hstep := step_refines h call
    obtain ⟨hmap, hwf⟩ := ih hstep
    rw [run, runOnLists, List.map_cons, hmap, hstep.map_toList]
    refine ⟨rfl, fun after hafter => ?_⟩
    rcases List.mem_cons.1 hafter with rfl | hafter
    · exact hstep.wellFormed
    · exact hwf after hafter

end BufferCall

/-! ### What can be done to a well-formed buffer -/

/-- Of the capacities that doubling can reach, the capacity is the least that has the slots which
are needed. -/
structure LeastDoubling (old needed capacity : Nat) : Prop where
  eq_mul : ∃ k, capacity = old * Nat.pow 2 k
  le : needed ≤ capacity
  least : ∀ k, needed ≤ old * Nat.pow 2 k → capacity ≤ old * Nat.pow 2 k

namespace Buffer

variable {α : Type} [Inhabited α]

/-- A buffer is well formed, and so is every range that reading it, setting its length or appending
to it asks for.  Setting the length gives the capacity that belongs to it, and moves the storage
just if that is another one.  Appending keeps the capacity as long as the items fit, and doubles
it no oftener than they need. -/
structure Sound (b : Buffer α) : Prop where
  wellFormed : b.WellFormed
  elements? : b.elements? = some b.toList
  resize? : ∀ length, ∃ move, b.resize? length = some (b.resize length, move) ∧
    (move.isSome = true ↔ capacityFor length ≠ b.capacity)
  capacity_resize : ∀ length, (b.resize length).capacity = capacityFor length
  extend? : ∀ items, ∃ move, b.extend? items = some (b.extend items, move) ∧
    (move.isSome = true ↔ b.capacity < b.length + items.length)
  capacity_extend : ∀ items,
    (b.length + items.length ≤ b.capacity → (b.extend items).capacity = b.capacity) ∧
      LeastDoubling b.capacity (b.length + items.length) (b.extend items).capacity

namespace WellFormed

variable {b c : Buffer α}

theorem leastDoubling_extend (hb : b.WellFormed) (items : List α) :
    LeastDoubling b.capacity (b.length + items.length) (b.extend items).capacity := by
  rw [Buffer.capacity_extend hb.capacity_pos hb.length_le]
  exact ⟨exists_doubledUntil_eq _ _, le_doubledUntil _ _ hb.capacity_pos,
    fun k hk => doubledUntil_le _ _ hk⟩

theorem sound (hb : b.WellFormed) : b.Sound where
  wellFormed := hb
  elements? := hb.elements?_eq
  resize? length := by
    refine ⟨_, hb.resize?_eq length, ?_⟩
    rw [Option.isSome_iff_ne_none, ne_eq, ne_eq, resizeMove?_eq_none_iff]
  capacity_resize length := (resize_view hb length).2.2
  extend? items := by
    refine ⟨_, Buffer.extend?_eq hb.capacity_pos hb.length_le items, ?_⟩
    rw [Option.isSome_iff_ne_none, ne_eq, extendMove?_eq_none_iff, Nat.not_le]
  capacity_extend items := by
    have hdoubling := hb.leastDoubling_extend items
    refine ⟨fun hfits => Nat.le_antisymm ?_ ?_, hdoubling⟩
    · have hzero := hdoubling.least 0 (Nat.le_trans hfits (Nat.le_of_eq (Nat.mul_one _).symm))
      exact Nat.le_trans hzero (Nat.le_of_eq (Nat.mul_one _))
    · rw [Buffer.capacity_extend hb.capacity_pos hb.length_le]
      exact self_le_doubledUntil _ _

theorem eq_iff (hb : b.WellFormed) (hc : c.WellFormed) :
    b = c ↔ b.length = c.length ∧ b.capacity = c.capacity ∧ b.toList = c.toList := by
  constructor
  · rintro rfl
    exact ⟨rfl, rfl, rfl⟩
  · rintro ⟨-, hcapacity, helems⟩
    exact hb.eq_of hc helems hcapacity

/-- What is left when the length is set follows from the elements and the length. -/
theorem resize_eq_of_toList (hb : b.WellFormed) (hc : c.WellFormed) (h : b.toList = c.toList)
    (length : Nat) : b.resize length = c.resize length := by
  obtain ⟨hbwf, hbelems, hbcap⟩ := resize_view hb length
  obtain ⟨hcwf, hcelems, hccap⟩ := resize_view hc length
  have hlength : b.length = c.length := by rw [← hb.length_toList, h, hc.length_toList]
  exact hbwf.eq_of hcwf (by rw [hbelems, hcelems, h, hlength]) (by rw [hbcap, hccap])

end WellFormed

end Buffer

/-! ### Any run from no buffers -/

/-- Calls on buffers, whatever they are and in whatever order, leave buffers that hold the lists
which the same calls on lists leave.  All of them are well formed, with every range in place that
can be asked for next.  Buffers of any two runs are equal just if their lengths, capacities and
elements are, and if only their elements are equal, setting the length leaves equal buffers. -/
theorem BufferCall.buffers_refine_lists {α : Type} [Inhabited α] (calls : List (BufferCall α)) :
    (run [] calls).map (·.map Buffer.toList) = runOnLists [] calls ∧
      ∀ row ∈ run [] calls, ∀ b ∈ row, b.Sound ∧
        ∀ others, ∀ row' ∈ run [] others, ∀ c ∈ row',
          (b = c ↔ b.length = c.length ∧ b.capacity = c.capacity ∧ b.toList = c.toList) ∧
            (b.toList = c.toList → ∀ length, b.resize length = c.resize length) := by
  have hnone : Refines (α := α) [] [] := ⟨fun b hb => absurd hb List.not_mem_nil, rfl⟩
  obtain ⟨hmap, hwf⟩ := run_refines hnone calls
  refine ⟨hmap, fun row hrow b hb => ⟨(hwf row hrow b hb).sound, ?_⟩⟩
  intro others row' hrow' c hc
  have hcwf := (run_refines hnone others).2 row' hrow' c hc
  exact ⟨(hwf row hrow b hb).eq_iff hcwf, (hwf row hrow b hb).resize_eq_of_toList hcwf⟩

/-- Two buffers get the same items, one of them just as many as it has slots for.  They are not
equal, but setting any length makes them so.  Items that do not fit the elements are not written,
and a number that names no buffer changes none. -/
theorem BufferCall.buffers_refine_lists_filled :
    (run [] [.withCapacity 0, .extend 0 [1, 2, 3], .withCapacity 3, .extend 1 [1, 2, 3],
        .write 1 2 [8, 9], .resize 2 5, .clone 1, .write 2 1 [8, 9], .fill 0 4,
        .resize 2 1] : List (List (Buffer Nat))).map (·.map Buffer.toList) =
      [[[]], [[1, 2, 3]], [[1, 2, 3], []], [[1, 2, 3], [1, 2, 3]], [[1, 2, 3], [1, 2, 3]],
        [[1, 2, 3], [1, 2, 3]], [[1, 2, 3], [1, 2, 3], [1, 2, 3]],
        [[1, 2, 3], [1, 2, 3], [1, 8, 9]], [[4, 4, 4], [1, 2, 3], [1, 8, 9]],
        [[4, 4, 4], [1, 2, 3], [1]]] ∧
      (⟨#[1, 2, 3, 0], 3⟩ : Buffer Nat) ≠ ⟨#[1, 2, 3], 3⟩ ∧
      ∀ length, (⟨#[1, 2, 3, 0], 3⟩ : Buffer Nat).resize length =
        (⟨#[1, 2, 3], 3⟩ : Buffer Nat).resize length := by
  refine ⟨(buffers_refine_lists _).1.trans (by decide +kernel), by decide, ?_⟩
  obtain ⟨-, hreached⟩ := buffers_refine_lists
    ([.withCapacity 0, .extend 0 [1, 2, 3], .withCapacity 3, .extend 1 [1, 2, 3]] :
      List (BufferCall Nat))
  have hrow : [(⟨#[1, 2, 3, 0], 3⟩ : Buffer Nat), ⟨#[1, 2, 3], 3⟩] ∈ run []
      [.withCapacity 0, .extend 0 [1, 2, 3], .withCapacity 3, .extend 1 [1, 2, 3]] := by
    decide +kernel
  obtain ⟨-, hothers⟩ := hreached _ hrow ⟨#[1, 2, 3, 0], 3⟩ (by decide)
  exact (hothers _ _ hrow ⟨#[1, 2, 3], 3⟩ (by decide)).2 rfl

end ProgramSupport
