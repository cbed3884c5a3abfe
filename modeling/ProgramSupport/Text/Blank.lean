/-!
# Blank characters

The characters with the property `White_Space` of the Unicode standard, and texts without the
blanks around them.  This file provides

* `isBlank` and `trimBlanks` — the blanks, and a text without those around it;
* `Trimmed`, with `trimmed_trimBlanks` and `Trimmed.eq` — the text between the blanks is the only
  one that stands between blanks and has none at its ends.
-/

namespace ProgramSupport

/-- The character has the property `White_Space`. -/
def isBlank (c : Char) : Bool :=
  let n := c.toNat
  (0x09 ≤ n && n ≤ 0x0D) || n == 0x20 || n == 0x85 || n == 0xA0 || n == 0x1680
    || (0x2000 ≤ n && n ≤ 0x200A) || n == 0x2028 || n == 0x2029 || n == 0x202F
    || n == 0x205F || n == 0x3000

/-- The characters between the leading and the trailing blanks. -/
def trimBlanks (text : List Char) : List Char :=
  ((text.dropWhile isBlank).reverse.dropWhile isBlank).reverse

/-- A blank of the ASCII range is blank. -/
theorem isBlank_of_isWhitespace {c : Char} (h : c.isWhitespace = true) : isBlank c = true := by
  simp only [Char.isWhitespace, Bool.or_eq_true, decide_eq_true_eq] at h
  rcases h with ((h | h) | h) | h <;> subst h <;> decide

/-- Leading blanks are dropped, and nothing of a text behind them that begins with none. -/
theorem dropWhile_isBlank {blanks rest : List Char} (hblanks : ∀ c ∈ blanks, isBlank c = true)
    (hrest : ∀ c ∈ rest.head?, isBlank c = false) : (blanks ++ rest).dropWhile isBlank = rest := by
  rw [List.dropWhile_append_of_pos hblanks]
  cases rest with
  | nil => rfl
  | cons c rest => exact List.dropWhile_cons_of_neg (by rw [hrest c rfl]; exact Bool.false_ne_true)

/-- A text is others with blanks around it, and has no blank at its own ends. -/
structure Trimmed (text core : List Char) : Prop where
  exists_around : ∃ before after, text = before ++ core ++ after ∧
    (∀ c ∈ before, isBlank c = true) ∧ ∀ c ∈ after, isBlank c = true
  head : ∀ c ∈ core.head?, isBlank c = false
  last : ∀ c ∈ core.getLast?, isBlank c = false

/-- What is left behind leading blanks begins with none. -/
theorem head_dropWhile_isBlank (text : List Char) :
    ∀ c ∈ (text.dropWhile isBlank).head?, isBlank c = false := by
  intro c hc
  have hhead := List.head?_dropWhile_not isBlank text
  rw [Option.mem_def.1 hc] at hhead
  exact hhead

/-- The text between the blanks. -/
theorem trimmed_trimBlanks (text : List Char) : Trimmed text (trimBlanks text) := by
  have hleading : text.takeWhile isBlank ++ text.dropWhile isBlank = text :=
    List.takeWhile_append_dropWhile
  have htrailing : trimBlanks text ++ ((text.dropWhile isBlank).reverse.takeWhile isBlank).reverse =
      text.dropWhile isBlank := by
    rw [trimBlanks, ← List.reverse_append, List.takeWhile_append_dropWhile, List.reverse_reverse]
  constructor
  · refine ⟨text.takeWhile isBlank, ((text.dropWhile isBlank).reverse.takeWhile isBlank).reverse,
      ?_, fun c hc => ?_, fun c hc => ?_⟩
    · rw [List.append_assoc, htrailing, hleading]
    · exact List.all_eq_true.1 List.all_takeWhile c hc
    · exact List.all_eq_true.1 List.all_takeWhile c (List.mem_reverse.1 hc)
  · intro c hc
    obtain ⟨rest, hrest⟩ := List.head?_eq_some_iff.1 hc
    refine head_dropWhile_isBlank text c ?_
    rw [← htrailing, hrest]
    rfl
  · intro c hc
    rw [trimBlanks, List.getLast?_reverse] at hc
    exact head_dropWhile_isBlank _ c hc

/-- Only one text stands between the blanks. -/
theorem Trimmed.eq {text core : List Char} (h : Trimmed text core) : trimBlanks text = core := by
  obtain ⟨⟨before, after, rfl, hbefore, hafter⟩, hhead, hlast⟩ := h
  by_cases hnone : core = []
  · have hblank : ∀ c ∈ before ++ core ++ after, isBlank c = true := by
      rw [hnone, List.append_nil]
      exact List.forall_mem_append.2 ⟨hbefore, hafter⟩
    have hdrop : (before ++ core ++ after ++ []).dropWhile isBlank = [] :=
      dropWhile_isBlank hblank (by simp)
    rw [List.append_nil] at hdrop
    rw [trimBlanks, hdrop, hnone]
    rfl
  · have hleading : (before ++ (core ++ after)).dropWhile isBlank = core ++ after := by
      refine dropWhile_isBlank hbefore fun c hc => hhead c ?_
      rwa [List.head?_append, Option.or_of_isSome (List.isSome_head?.2 hnone)] at hc
    have htrailing : (after.reverse ++ core.reverse).dropWhile isBlank = core.reverse := by
      refine dropWhile_isBlank (fun c hc => hafter c (List.mem_reverse.1 hc)) fun c hc => hlast c ?_
      rwa [List.head?_reverse] at hc
    rw [trimBlanks, List.append_assoc, hleading, List.reverse_append, htrailing,
      List.reverse_reverse]

/-- What holds of a text between the blanks holds of the one that is found. -/
theorem exists_trimmed_iff {text : List Char} {p : List Char → Prop} :
    (∃ core, Trimmed text core ∧ p core) ↔ p (trimBlanks text) := by
  constructor
  · rintro ⟨core, htrimmed, hcore⟩
    rwa [htrimmed.eq]
  · intro h
    exact ⟨_, trimmed_trimBlanks text, h⟩

/-- A blank is no letter. -/
theorem toLower_of_isBlank {c : Char} (h : isBlank c = true) : c.toLower = c := by
  unfold Char.toLower
  split
  · next hupper =>
    have hlow : 65 ≤ c.toNat := hupper.1
    have hhigh : c.toNat ≤ 90 := hupper.2
    simp [isBlank] at h
    omega
  · rfl

example : trimBlanks [' ', '\t', 'a', ' ', 'b', '\u2003'] = ['a', ' ', 'b'] := by decide

end ProgramSupport
