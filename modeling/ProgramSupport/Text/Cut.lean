import ProgramSupport.Text.Quoted

/-!
# Cutting a text at byte offsets

Offsets into a text count the bytes of its UTF-8 form.  A part of a text can be cut out between
two offsets if neither lies inside of a character.  This file provides

* `utf8Length` — the offset at the end of a text;
* `charAcross?` — the character that an offset lies inside of;
* `SplitCharacter` — the fault of a cut, with its message;
* `beforeOffset`, `behindOffset` and `cut` — the characters up to an offset, from it on, and between two.

Cuts between characters give what stands there (`cut_append`).
-/

namespace ProgramSupport

/-- The number of bytes of a text. -/
def utf8Length : List Char → Nat
  | [] => 0
  | c :: text => c.utf8Size + utf8Length text

@[simp] theorem utf8Length_nil : utf8Length [] = 0 := rfl

@[simp] theorem utf8Length_cons (c : Char) (text : List Char) :
    utf8Length (c :: text) = c.utf8Size + utf8Length text := rfl

/-! ### Faults -/

/-- One of the two ends of a part. -/
inductive CutEnd where
  | start
  | stop
deriving Repr, DecidableEq

def CutEnd.name : CutEnd → String
  | .start => "start"
  | .stop => "end"

/-- A character that a cut would split. -/
structure SplitCharacter where
  cutEnd : CutEnd
  /-- Where the cut would be. -/
  offset : Nat
  character : Char
  /-- The offset of the first byte of the character. -/
  position : Nat
deriving Repr, DecidableEq

def SplitCharacter.message (fault : SplitCharacter) : String :=
  fault.cutEnd.name ++ " byte index " ++ toString fault.offset ++
    " is not a char boundary; it is inside '" ++ String.ofList (escaped fault.character) ++
    "' (bytes " ++ toString fault.position ++ ".." ++
    toString (fault.position + fault.character.utf8Size) ++ " of string)"

/-- The character that an offset lies inside of, with the offset of its first byte, in a text
that begins at a position. -/
def charAcross? (position : Nat) : List Char → Nat → Option (Char × Nat)
  | [], _ => none
  | c :: text, offset =>
    if offset ≤ position then none
    else if offset < position + c.utf8Size then some (c, position)
    else charAcross? (position + c.utf8Size) text offset

/-- No character lies across the offset of a place between two characters. -/
theorem charAcross?_append (position : Nat) (earlier later : List Char) :
    charAcross? position (earlier ++ later) (position + utf8Length earlier) = none := by
  induction earlier generalizing position with
  | nil => cases later <;> simp [charAcross?]
  | cons c earlier ih =>
    have hpos := Char.utf8Size_pos c
    rw [List.cons_append, charAcross?, utf8Length_cons, if_neg (by omega), if_neg (by omega),
      ← Nat.add_assoc, ih]

/-! ### Parts -/

/-- The characters that begin before an offset. -/
def beforeOffset : List Char → Nat → List Char
  | [], _ => []
  | c :: text, offset => if offset = 0 then [] else c :: beforeOffset text (offset - c.utf8Size)

/-- The characters that begin at an offset or behind it. -/
def behindOffset : List Char → Nat → List Char
  | [], _ => []
  | c :: text, offset => if offset = 0 then c :: text else behindOffset text (offset - c.utf8Size)

/-- An offset divides a text in two. -/
theorem beforeOffset_append_behindOffset (text : List Char) (offset : Nat) :
    beforeOffset text offset ++ behindOffset text offset = text := by
  induction text generalizing offset with
  | nil => rfl
  | cons c text ih =>
    unfold beforeOffset behindOffset
    split
    · rfl
    · rw [List.cons_append, ih]

theorem beforeOffset_append (earlier later : List Char) :
    beforeOffset (earlier ++ later) (utf8Length earlier) = earlier := by
  induction earlier with
  | nil => cases later <;> simp [beforeOffset]
  | cons c earlier ih =>
    have hpos := Char.utf8Size_pos c
    rw [List.cons_append, beforeOffset, utf8Length_cons, if_neg (by omega),
      Nat.add_sub_cancel_left, ih]

theorem behindOffset_append (earlier later : List Char) :
    behindOffset (earlier ++ later) (utf8Length earlier) = later := by
  have h := beforeOffset_append_behindOffset (earlier ++ later) (utf8Length earlier)
  rw [beforeOffset_append] at h
  exact List.append_cancel_left h

/-- The part of a text between two offsets.  Of two characters that would be split, the one at
the start is the fault. -/
def cut (text : List Char) (start stop : Nat) : Except SplitCharacter (List Char) :=
  match charAcross? 0 text start, charAcross? 0 text stop with
  | some (character, position), _ => .error ⟨.start, start, character, position⟩
  | none, some (character, position) => .error ⟨.stop, stop, character, position⟩
  | none, none => .ok (behindOffset (beforeOffset text stop) start)

/-- Between two places that lie between characters stands what is cut out. -/
theorem cut_append (earlier part later : List Char) :
    cut (earlier ++ part ++ later) (utf8Length earlier) (utf8Length (earlier ++ part)) =
      .ok part := by
  have hstart := charAcross?_append 0 earlier (part ++ later)
  have hstop := charAcross?_append 0 (earlier ++ part) later
  rw [Nat.zero_add] at hstart hstop
  rw [← List.append_assoc] at hstart
  rw [cut, hstart, hstop, beforeOffset_append, behindOffset_append]

example : (match cut ['a', 'é', 'b'] 1 2 with
    | .ok _ => none
    | .error fault => some fault.message) =
    some "end byte index 2 is not a char boundary; it is inside 'é' (bytes 1..3 of string)" := by
  decide +kernel

end ProgramSupport
