import ProgramSupport.Text.Unprintable

/-!
# Quoted text

A text in double quotes, with an escape for each quote and backslash and for each character
that does not show.  `quoted` writes it; `escaped` is its rule for one character.
-/

namespace ProgramSupport

/-- How a character stands between quotes: quotes, backslashes and the control characters with
a letter of their own behind a backslash, other characters that do not show by number. -/
def escaped (c : Char) : List Char :=
  if c = '"' ∨ c = '\\' then ['\\', c]
  else if c = '\n' then ['\\', 'n']
  else if c = '\r' then ['\\', 'r']
  else if c = '\t' then ['\\', 't']
  else if c = '\x00' then ['\\', '0']
  else if isUnprintable c then ['\\', 'u', '\x7b'] ++ Nat.toDigits 16 c.toNat ++ ['\x7d']
  else [c]

/-- A text in double quotes. -/
def quoted (text : String) : String :=
  String.ofList ('"' :: text.toList.flatMap escaped ++ ['"'])

/-- Without its surroundings an escape is never empty, so no character is lost. -/
theorem escaped_ne_nil (c : Char) : escaped c ≠ [] := by
  unfold escaped
  repeat' split
  all_goals simp

/-- A combining accent is written by number, since it would merge with the quote before it. -/
example : escaped '\u0301' = ['\\', 'u', '\x7b', '3', '0', '1', '\x7d'] := by decide +kernel

end ProgramSupport
