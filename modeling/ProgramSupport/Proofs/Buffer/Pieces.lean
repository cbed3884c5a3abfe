import ProgramSupport.Proofs.Buffer.Slices

/-!
# Appending in pieces

Items reach a buffer in pieces, and its capacity is doubled when a piece does not fit.  This file
provides

* `Buffer.extend_extend` — two pieces leave the buffer that they leave together;
* `Buffer.foldl_extend` — so do any number of pieces, however the items are cut;
* `Buffer.exists_half_of_extendMove?` — a capacity that is doubled was not enough by half;
* `Buffer.pieces_accumulated` — this together, with every slice that appending asks for.

All that is asked of the buffer is a slot and no more elements than slots.  What stands behind its
elements does not matter: a move clears it, and without a move the items stand in its place.
-/

namespace ProgramSupport.Buffer

variable {α : Type} [Inhabited α] {b : Buffer α}

/-! ### One piece -/

theorem length_extend (b : Buffer α) (items : List α) :
    (b.extend items).length = b.length + items.length := rfl

theorem toList_extend (hcap : 0 < b.capacity) (hlen : b.length ≤ b.capacity) (items : List α) :
    (b.extend items).toList = b.toList ++ items := by
  have helems : (b.toList ++ items).length = b.length + items.length := by
    rw [List.length_append, length_toList_of_le hlen]
  rw [toList, slots_extend hcap hlen, length_extend, List.take_left' helems]

theorem capacity_extend_pos (hcap : 0 < b.capacity) (hlen : b.length ≤ b.capacity)
    (items : List α) : 0 < (b.extend items).capacity := by
  rw [capacity_extend hcap hlen]
  exact Nat.lt_of_lt_of_le hcap (self_le_doubledUntil _ _)

theorem length_extend_le (hcap : 0 < b.capacity) (hlen : b.length ≤ b.capacity)
    (items : List α) : (b.extend items).length ≤ (b.extend items).capacity := by
  rw [capacity_extend hcap hlen, length_extend]
  exact le_doubledUntil _ _ hcap

/-- Nothing is appended by an empty piece. -/
theorem extend_nil (hlen : b.length ≤ b.capacity) : b.extend [] = b := by
  rw [extend, (extendMove?_eq_none_iff b _).2 hlen]
  rfl

/-! ### Two pieces -/

/-- What stands behind a second piece is what stands behind both. -/
theorem behind_extend (hcap : 0 < b.capacity) (hlen : b.length ≤ b.capacity) (items : List α)
    (count : Nat) : (b.extend items).behind count = b.behind (items.length + count) := by
  have hdoubled := doubledUntil_doubledUntil (Nat.le_add_right (b.length + items.length) count)
    b.capacity
  rw [behind, behind, length_extend, capacity_extend hcap hlen, hdoubled, ← Nat.add_assoc]
  by_cases hfirst : b.length + items.length ≤ b.capacity
  · -- The first piece fits, so the second fits or moves the storage as both together would.
    have helems : (b.toList ++ items).length = b.length + items.length := by
      rw [List.length_append, length_toList_of_le hlen]
    have hold : doubledUntil (b.length + items.length) b.capacity = b.capacity := by
      rw [doubledUntil, if_neg (by omega)]
    rw [hold, slots_extend hcap hlen, behind, if_pos hfirst, ← List.drop_drop,
      List.drop_left' helems, List.drop_drop]
  · -- The first piece moves the storage, so zeros stand behind it.
    have helems : (b.toList ++ items).length = b.length + items.length := by
      rw [List.length_append, length_toList_of_le hlen]
    rw [if_neg (by omega : ¬b.length + items.length + count ≤ b.capacity)]
    by_cases hsecond : b.length + items.length + count ≤
        doubledUntil (b.length + items.length) b.capacity
    · have henough : doubledUntil (b.length + items.length + count) b.capacity =
          doubledUntil (b.length + items.length) b.capacity := by
        rw [← hdoubled, doubledUntil, if_neg (by omega)]
      rw [if_pos hsecond, slots_extend hcap hlen, behind, if_neg hfirst, ← List.drop_drop,
        List.drop_left' helems, List.drop_replicate, henough, Nat.sub_sub]
    · rw [if_neg hsecond]

/-- Two pieces leave the buffer that they leave together. -/
theorem extend_extend (hcap : 0 < b.capacity) (hlen : b.length ≤ b.capacity) (xs ys : List α) :
    (b.extend xs).extend ys = b.extend (xs ++ ys) := by
  have hcap' := capacity_extend_pos hcap hlen xs
  have hlen' := length_extend_le hcap hlen xs
  have hlength : ((b.extend xs).extend ys).length = (b.extend (xs ++ ys)).length := by
    rw [length_extend, length_extend, length_extend, List.length_append, Nat.add_assoc]
  have hslots : ((b.extend xs).extend ys).slots = (b.extend (xs ++ ys)).slots := by
    apply Array.toList_inj.1
    rw [slots_extend hcap' hlen', slots_extend hcap hlen, toList_extend hcap hlen,
      behind_extend hcap hlen, List.length_append, List.append_assoc b.toList]
  exact eq_of_slots hslots hlength

/-! ### Any number of pieces -/

/-- However items are cut into pieces, and whether some are empty, they leave the buffer that they
leave together. -/
theorem foldl_extend (hcap : 0 < b.capacity) (hlen : b.length ≤ b.capacity)
    (pieces : List (List α)) : pieces.foldl extend b = b.extend pieces.flatten := by
  induction pieces generalizing b with
  | nil => exact (extend_nil hlen).symm
  | cons piece pieces ih =>
    have hcap' := capacity_extend_pos hcap hlen piece
    have hlen' := length_extend_le hcap hlen piece
    rw [List.foldl_cons, ih hcap' hlen', extend_extend hcap hlen, List.flatten_cons]

omit [Inhabited α] in
/-- Half of the capacity that a move brings is below the length that asks for it. -/
theorem exists_half_of_extendMove? (hcap : 0 < b.capacity) {items : List α} {move : Reallocation}
    (h : b.extendMove? items.length = some move) :
    move.newCapacity = doubledUntil (b.length + items.length) b.capacity ∧
      ∃ half, move.newCapacity = 2 * half ∧ half < b.length + items.length := by
  unfold extendMove? at h
  split at h
  · cases h
  · next hlarge =>
    cases h
    exact ⟨rfl, exists_half_doubledUntil hcap (Nat.lt_of_not_le hlarge)⟩

/-- What a buffer accumulates does not depend on how the items are cut into pieces: slots, capacity
and length are the same.  Each piece finds the slices that it asks for.  Within the machine words
that can count slots, the loop of doublings ends, and where it moves the storage, half of the new
capacity would have been below the new length. -/
theorem pieces_accumulated (hcap : 0 < b.capacity) (hlen : b.length ≤ b.capacity) :
    (∀ xs ys, (b.extend xs).extend ys = b.extend (xs ++ ys)) ∧
      (∀ pieces : List (List α), pieces.foldl extend b = b.extend pieces.flatten) ∧
      ∀ items, ∃ move?, b.extend? items = some (b.extend items, move?) ∧
        (2 * (b.extend items).length ≤ UInt64.size →
          DoublesTo UInt64.size (b.extend items).length b.capacity (b.extend items).capacity) ∧
        ∀ move, move? = some move → (b.extend items).capacity = move.newCapacity ∧
          ∃ half, move.newCapacity = 2 * half ∧ half < (b.extend items).length := by
  refine ⟨extend_extend hcap hlen, foldl_extend hcap hlen, fun items => ?_⟩
  refine ⟨_, extend?_eq hcap hlen items, fun hlimit => ?_, fun move hmove => ?_⟩
  · rw [capacity_extend hcap hlen]
    exact doublesTo_doubledUntil hcap hlimit
  · obtain ⟨hnew, hhalf⟩ := exists_half_of_extendMove? hcap hmove
    exact ⟨(capacity_extend hcap hlen items).trans hnew.symm, hhalf⟩

/-- A buffer whose last slot is not zero, although it holds no element. -/
theorem pieces_accumulated_stale :
    [[5], [], [6, 7, 8]].foldl extend (⟨#[1, 2, 9], 2⟩ : Buffer Nat) =
        ⟨#[1, 2, 5, 6, 7, 8], 6⟩ ∧
      DoublesTo UInt64.size 6 3 6 := by
  obtain ⟨-, hpieces, hitems⟩ :=
    pieces_accumulated (b := (⟨#[1, 2, 9], 2⟩ : Buffer Nat)) (by decide) (by decide)
  obtain ⟨-, -, hloop, -⟩ := hitems [5, 6, 7, 8]
  have hwhole : (⟨#[1, 2, 9], 2⟩ : Buffer Nat).extend [5, 6, 7, 8] = ⟨#[1, 2, 5, 6, 7, 8], 6⟩ := by
    decide +kernel
  rw [hwhole] at hloop
  exact ⟨(hpieces _).trans hwhole, hloop (by decide)⟩

end ProgramSupport.Buffer
