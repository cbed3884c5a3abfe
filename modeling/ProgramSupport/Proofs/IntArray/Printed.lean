import ProgramSupport.Proofs.IntArray.Refinement
import ProgramSupport.Proofs.Source.Numerals

/-!
# Equal arrays and their text

Two arrays are equal when all their slots are, with the slots behind their elements.  Whatever has
been done to them, this is no more than to have the same elements, and to print the same text.
This file provides

* `Printable.elementText` — decimal numerals with a comma and a space between them, and
  `Printable.render_array`, the text of an array;
* `Decimal.ofInteger_append_inj` — where a numeral ends in front of a byte that is no digit, the
  text determines the integer and what follows it;
* `Printable.elementText_inj` — the numerals in front of a closing bracket determine the elements;
* `Shelf.Reached` — an array that some calls leave;
* `IntArray.WellFormed.foldl_appendAll_eq` — appending arrays is appending all their elements, one
  by one;
* `IntArray.eq_iff_slots` — what equal arrays have in common.

The main statement is `Shelf.equal_iff_printed`.
-/

namespace ProgramSupport

/-! ### Numerals -/

/-- A numeral in front of a byte that is no digit can be told from what follows it. -/
theorem Decimal.ofInteger_append_inj {x y : Int64} {b c : UInt8} {later later' : List UInt8}
    (hb : digit? b = none) (hc : digit? c = none)
    (h : ofInteger x.toInt ++ b :: later = ofInteger y.toInt ++ c :: later') :
    x = y ∧ b :: later = c :: later' := by
  -- Reading the integer back splits the text at the end of the numeral.
  have hread := congrArg (fun text => Stream.int (text.map Cell.byte)) h
  simp only [List.map_append, List.map_cons, Stream.int_written x hb, Stream.int_written y hc,
    Prod.mk.injEq, Except.ok.injEq] at hread
  obtain ⟨rfl, -⟩ := hread
  exact ⟨rfl, List.append_cancel_left h⟩

namespace Printable

/-- The numerals of some integers, with a comma and a space between them. -/
def elementText (values : List Int64) : List UInt8 :=
  (Utf8.encode ", ").intercalate (values.map fun value => Decimal.ofInteger value.toInt)

theorem elementText_cons_cons (value other : Int64) (values : List Int64) :
    elementText (value :: other :: values) =
      Decimal.ofInteger value.toInt ++ Utf8.encode ", " ++ elementText (other :: values) :=
  List.intercalate_cons_cons

theorem elementText_singleton (value : Int64) :
    elementText [value] = Decimal.ofInteger value.toInt := List.intercalate_singleton

theorem flatten_elementPieces (values : List Int64) :
    (elementPieces values).flatten = elementText values := by
  fun_induction elementPieces values with
  | case1 => rfl
  | case2 value => rw [intPieces_flatten, elementText_singleton]
  | case3 value values hmore ih =>
    cases values with
    | nil => exact absurd rfl hmore
    | cons other values =>
      rw [elementText_cons_cons, List.flatten_append, List.flatten_cons, ih, intPieces_flatten,
        List.append_assoc]

/-- The text of an array. -/
theorem render_array (a : IntArray) (newline : Bool) :
    (array a).render newline =
      Utf8.encode "IntArray(" ++ (elementText a.toList ++ Utf8.encode ")") ++
        if newline then [Ascii.newline] else [] := by
  rw [render, linePieces, pieces, List.flatten_append, List.flatten_append, List.flatten_cons,
    flatten_elementPieces, List.append_assoc]
  cases newline <;> simp

/-- What stands behind a numeral in the text of an array. -/
def behindNumeral : List Int64 → List UInt8
  | [] => Utf8.encode ")"
  | value :: values =>
    Utf8.encode ", " ++ (Decimal.ofInteger value.toInt ++ behindNumeral values)

theorem elementText_cons (value : Int64) (values : List Int64) :
    elementText (value :: values) ++ Utf8.encode ")" =
      Decimal.ofInteger value.toInt ++ behindNumeral values := by
  induction values generalizing value with
  | nil => rw [elementText_singleton, behindNumeral]
  | cons other values ih =>
    rw [elementText_cons_cons, behindNumeral, List.append_assoc, ih, List.append_assoc]

/-- No digit stands behind a numeral. -/
theorem exists_behindNumeral_eq_cons (values : List Int64) :
    ∃ b later, behindNumeral values = b :: later ∧ Decimal.digit? b = none := by
  cases values with
  | nil => exact ⟨41, [], by decide +kernel, by decide⟩
  | cons value values =>
    refine ⟨44, 32 :: (Decimal.ofInteger value.toInt ++ behindNumeral values), ?_, by decide⟩
    rw [behindNumeral, show Utf8.encode ", " = [44, 32] by decide +kernel]
    rfl

theorem numeral_inj {x y : Int64} {xs ys : List Int64}
    (h : Decimal.ofInteger x.toInt ++ behindNumeral xs =
      Decimal.ofInteger y.toInt ++ behindNumeral ys) :
    x = y ∧ behindNumeral xs = behindNumeral ys := by
  obtain ⟨b, later, hxs, hb⟩ := exists_behindNumeral_eq_cons xs
  obtain ⟨c, later', hys, hc⟩ := exists_behindNumeral_eq_cons ys
  rw [hxs, hys] at h ⊢
  exact Decimal.ofInteger_append_inj hb hc h

theorem behindNumeral_cons_ne (value : Int64) (values : List Int64) :
    behindNumeral (value :: values) ≠ behindNumeral [] := by
  intro h
  rw [behindNumeral, behindNumeral, show Utf8.encode ", " = [44, 32] by decide +kernel,
    show Utf8.encode ")" = [41] by decide +kernel] at h
  cases h

theorem behindNumeral_inj {xs ys : List Int64} (h : behindNumeral xs = behindNumeral ys) :
    xs = ys := by
  induction xs generalizing ys with
  | nil =>
    cases ys with
    | nil => rfl
    | cons y ys => exact absurd h.symm (behindNumeral_cons_ne y ys)
  | cons x xs ih =>
    cases ys with
    | nil => exact absurd h (behindNumeral_cons_ne x xs)
    | cons y ys =>
      rw [behindNumeral, behindNumeral] at h
      obtain ⟨rfl, hrest⟩ := numeral_inj (List.append_cancel_left h)
      rw [ih hrest]

/-- A closing bracket is no numeral. -/
theorem bracket_ne (value : Int64) (values : List Int64) :
    Utf8.encode ")" ≠ Decimal.ofInteger value.toInt ++ behindNumeral values := by
  intro h
  obtain ⟨b, later, hvalues, hb⟩ := exists_behindNumeral_eq_cons values
  have hbracket : Stream.int ((Utf8.encode ")").map .byte) =
      (.error (.invalidInteger "expected a decimal integer"), [.byte 41]) := by decide +kernel
  rw [h, hvalues, List.map_append, List.map_cons, Stream.int_written value hb] at hbracket
  cases hbracket

/-- The numerals in front of a closing bracket determine the integers. -/
theorem elementText_inj {xs ys : List Int64}
    (h : elementText xs ++ Utf8.encode ")" = elementText ys ++ Utf8.encode ")") : xs = ys := by
  cases xs with
  | nil =>
    cases ys with
    | nil => rfl
    | cons y ys =>
      rw [elementText_cons] at h
      exact absurd h (bracket_ne y ys)
  | cons x xs =>
    cases ys with
    | nil =>
      rw [elementText_cons] at h
      exact absurd h.symm (bracket_ne x xs)
    | cons y ys =>
      rw [elementText_cons, elementText_cons] at h
      obtain ⟨rfl, hrest⟩ := numeral_inj h
      rw [behindNumeral_inj hrest]

/-- Arrays print the same text just if they have the same elements. -/
theorem render_array_inj {a b : IntArray} {newline : Bool}
    (h : (array a).render newline = (array b).render newline) : a.toList = b.toList := by
  rw [render_array, render_array] at h
  exact elementText_inj (List.append_cancel_left (List.append_cancel_right h))

end Printable

/-! ### Arrays of any history -/

/-- The array is one of those that some calls leave. -/
def Shelf.Reached (a : IntArray) : Prop :=
  ∃ policy calls, ∃ after ∈ run policy [] calls, a ∈ after.2

theorem Shelf.Reached.wellFormed {a : IntArray} (h : Reached a) : a.WellFormed := by
  obtain ⟨policy, calls, after, hafter, ha⟩ := h
  exact (run_refines refines_nil calls).2 after hafter a ha

/-- Appending arrays one after another is appending all their elements one by one. -/
theorem IntArray.WellFormed.foldl_appendAll_eq {a : IntArray} (ha : a.WellFormed)
    {parts : List IntArray} (hparts : ∀ part ∈ parts, part.WellFormed) :
    parts.foldl appendAll a = (parts.flatMap IntArray.toList).foldl append a := by
  induction parts generalizing a with
  | nil => rfl
  | cons part parts ih =>
    have hpart := hparts part List.mem_cons_self
    have hwhole := appendAll_view ha hpart
    have hsingly := foldl_append_view ha part.toList
    have heq : a.appendAll part = part.toList.foldl append a :=
      hwhole.1.eq_of hsingly.1 (hwhole.2.trans hsingly.2.symm)
    rw [List.foldl_cons, List.flatMap_cons, List.foldl_append, ← heq]
    exact ih hwhole.1 fun other hother => hparts other (List.mem_cons_of_mem _ hother)

/-- Arrays are equal just if all their slots are, and their sizes. -/
theorem IntArray.eq_iff_slots (a b : IntArray) :
    a = b ↔ a.buffer.slots = b.buffer.slots ∧ a.size = b.size := by
  constructor
  · rintro rfl
    exact ⟨rfl, rfl⟩
  · intro h
    obtain ⟨⟨slots, length⟩⟩ := a
    obtain ⟨⟨slots', length'⟩⟩ := b
    obtain ⟨rfl, hsize⟩ := h
    exact congrArg (fun length => IntArray.mk ⟨slots, length⟩) hsize

/-- Whatever has been done to two arrays, they are equal in all their slots and their size just if
they have the same elements, and just if they print the same text.  So it does not matter how some
elements are appended: by arrays, cut as one likes, or one by one. -/
theorem Shelf.equal_iff_printed {a b : IntArray} (ha : Reached a) (hb : Reached b)
    (newline : Bool) :
    ((a == b) = true ↔ a.buffer.slots = b.buffer.slots ∧ a.size = b.size) ∧
      ((a == b) = true ↔ a.toList = b.toList) ∧
      ((a == b) = true ↔ (Printable.array a).render newline = (Printable.array b).render newline) ∧
      (Printable.array a).render false =
        Utf8.encode "IntArray(" ++ (Printable.elementText a.toList ++ Utf8.encode ")") ∧
      ∀ parts : List IntArray, (∀ part ∈ parts, Reached part) →
        parts.foldl IntArray.appendAll a =
          (parts.flatMap IntArray.toList).foldl IntArray.append a := by
  have helements : (a == b) = true ↔ a.toList = b.toList := by
    rw [beq_iff_eq]
    exact ⟨fun h => congrArg IntArray.toList h, ha.wellFormed.eq_of hb.wellFormed⟩
  refine ⟨?_, helements, ?_, ?_, ?_⟩
  · rw [beq_iff_eq, IntArray.eq_iff_slots]
  · rw [helements]
    constructor
    · intro h
      rw [Printable.render_array, Printable.render_array, h]
    · exact Printable.render_array_inj
  · rw [Printable.render_array, if_neg Bool.false_ne_true, List.append_nil]
  · intro parts hparts
    exact ha.wellFormed.foldl_appendAll_eq fun part hpart => (hparts part hpart).wellFormed

/-- An array that is grown element by element, and one that is cut off and grown again. -/
theorem Shelf.equal_iff_printed_regrown :
    Reached (.collect [7, -8]) ∧ Reached ⟨⟨#[7, -8, 0, 0], 2⟩⟩ ∧
      (Printable.array (.collect [7, -8])).render true =
        (Printable.array ⟨⟨#[7, -8, 0, 0], 2⟩⟩).render true := by
  have hcollected : Reached (.collect [7, -8]) :=
    ⟨.exit, [.collect [7, -8]], (.answered .unit, [.collect [7, -8]]), by decide +kernel,
      List.mem_singleton_self _⟩
  have hregrown : Reached ⟨⟨#[7, -8, 0, 0], 2⟩⟩ :=
    ⟨.exit, [.new .entry 3, .set .entry 0 0 7, .resize .entry 0 1, .append 0 (-8)],
      (.answered .unit, [⟨⟨#[7, -8, 0, 0], 2⟩⟩]), by decide +kernel, List.mem_singleton_self _⟩
  obtain ⟨-, -, hprinted, -⟩ := equal_iff_printed hcollected hregrown true
  exact ⟨hcollected, hregrown, hprinted.1 (by decide +kernel)⟩

end ProgramSupport
