/-!
# Parts of a text

A text that separators cut into parts: one part more than there are separators, which are left
out.  Putting the parts together again, with the separators between them, gives the text.
-/

namespace ProgramSupport

/-- The parts of a text between separators. -/
def partsBetween (separator : Char) : List Char → List (List Char)
  | [] => [[]]
  | c :: text =>
    if c = separator then [] :: partsBetween separator text
    else match partsBetween separator text with
      | part :: parts => (c :: part) :: parts
      | [] => [[c]]

theorem partsBetween_ne_nil (separator : Char) (text : List Char) :
    partsBetween separator text ≠ [] := by
  cases text with
  | nil => simp [partsBetween]
  | cons c text =>
    simp only [partsBetween]
    split
    · simp
    · split <;> simp

/-- The parts with the separators between them are the text. -/
theorem intercalate_partsBetween (separator : Char) (text : List Char) :
    List.intercalate [separator] (partsBetween separator text) = text := by
  induction text with
  | nil => rfl
  | cons c text ih =>
    have hne := partsBetween_ne_nil separator text
    obtain ⟨part, parts, h⟩ := List.exists_cons_of_ne_nil hne
    rw [h] at ih
    simp only [partsBetween, h]
    split
    · subst ‹c = separator›
      rw [← ih]
      simp [List.intercalate, List.intersperse]
    · cases parts with
      | nil => simpa [List.intercalate, List.intersperse] using ih
      | cons next parts => simpa [List.intercalate, List.intersperse] using ih

end ProgramSupport
