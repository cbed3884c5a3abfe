/-!
# Sets of code points

A property of characters that a standard lists is given by the ranges of code points that have
it.  This file provides

* `CodePoints` — closed ranges of code points, and `CodePoints.contains`;
* `CodePoints.ascending` — the ranges stand in ascending order and apart;
* `CodePoints.count` — the number of code points in them.
-/

namespace ProgramSupport

/-- Closed ranges of code points, each by its least and its greatest. -/
structure CodePoints where
  ranges : List (Nat × Nat)
deriving Repr, DecidableEq

namespace CodePoints

/-- The character lies in one of the ranges. -/
def contains (set : CodePoints) (c : Char) : Bool :=
  set.ranges.any fun range => range.1 ≤ c.toNat && c.toNat ≤ range.2

/-- No range is empty, and between two neighbours lies a code point of neither. -/
def ascending (set : CodePoints) : Bool :=
  set.ranges.all (fun range => range.1 ≤ range.2) &&
    (set.ranges.zip set.ranges.tail).all fun (range, next) => range.2 + 1 < next.1

/-- The number of code points in ranges that stand apart. -/
def count (set : CodePoints) : Nat :=
  set.ranges.foldl (fun count range => count + (range.2 + 1 - range.1)) 0

/-- A character lies in a set exactly if it lies between the ends of a range. -/
theorem contains_iff (set : CodePoints) (c : Char) :
    set.contains c = true ↔ ∃ range ∈ set.ranges, range.1 ≤ c.toNat ∧ c.toNat ≤ range.2 := by
  simp [contains, List.any_eq_true]

/-- A character lies outside exactly if every range ends before it or begins behind it. -/
theorem contains_eq_false_iff (set : CodePoints) (c : Char) :
    set.contains c = false ↔ ∀ range ∈ set.ranges, c.toNat < range.1 ∨ range.2 < c.toNat := by
  rw [← Bool.not_eq_true, contains_iff]
  constructor
  · intro h range hrange
    by_cases hlow : range.1 ≤ c.toNat
    · exact .inr (Nat.lt_of_not_le fun hhigh => h ⟨range, hrange, hlow, hhigh⟩)
    · exact .inl (Nat.lt_of_not_le hlow)
  · rintro h ⟨range, hrange, hlow, hhigh⟩
    rcases h range hrange with h | h <;> omega

end CodePoints

end ProgramSupport
