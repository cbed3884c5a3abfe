import ProgramSupport.Text.Decimal

/-!
# Texts that are one numeral

A number is read from a text that holds one numeral and nothing else.  Its digits are taken from the
left, and the bound is checked at each of them.  This file provides

* `Decimal.ofChars` — the number that digits stand for as characters;
* `Decimal.StandsFor` — the text is a numeral: at most one plus sign, and then digits;
* `Decimal.unsigned`, `Decimal.leadingDigits` — a text without its plus sign, and the digits that
  it begins with;
* `Decimal.readDigits_eq` — what comes first, the bound or a character that is no digit, follows
  from the leading digits as a whole;
* `Decimal.ReadFault.AppliesTo` — why a text is not read, told without reading it;
* `Decimal.read_eq_ok_iff` and `Decimal.read_eq_error_iff` — which texts give which result.
-/

namespace ProgramSupport.Decimal

/-! ### Numerals -/

/-- The number that the characters of digits stand for. -/
def ofChars (digits : List Char) : Nat := value (digits.map fun c => c.toNat - 48)

theorem ofChars_append_singleton (digits : List Char) (c : Char) :
    ofChars (digits ++ [c]) = 10 * ofChars digits + (c.toNat - 48) := by
  rw [ofChars, List.map_append, List.map_singleton, value_append_singleton]
  rfl

theorem ofChars_le_append (digits more : List Char) :
    ofChars digits ≤ ofChars (digits ++ more) := by
  rw [ofChars, ofChars, List.map_append]
  exact value_le_append _ _

/-- The text is a numeral of the number: digits, at least one, behind at most one plus sign. -/
inductive StandsFor : List Char → Nat → Prop where
  | plain {digits : List Char} (hne : digits ≠ []) (hdigits : ∀ c ∈ digits, c.isDigit = true) :
      StandsFor digits (ofChars digits)
  | signed {digits : List Char} (hne : digits ≠ []) (hdigits : ∀ c ∈ digits, c.isDigit = true) :
      StandsFor ('+' :: digits) (ofChars digits)

/-- The text without one plus sign at its beginning. -/
def unsigned : List Char → List Char
  | '+' :: text => text
  | text => text

/-- The digits that a text begins with, behind its sign. -/
def leadingDigits (text : List Char) : List Char := (unsigned text).takeWhile Char.isDigit

theorem unsigned_of_head {c : Char} (hc : c ≠ '+') (text : List Char) :
    unsigned (c :: text) = c :: text := by
  unfold unsigned
  split
  · next heq => exact absurd (List.cons.inj heq).1 hc
  · rfl

/-- A text begins with a plus sign and is something behind it, or is itself without a sign. -/
theorem unsigned_cases (text : List Char) : text = '+' :: unsigned text ∨ text = unsigned text := by
  cases text with
  | nil => exact .inr rfl
  | cons c text =>
    by_cases hc : c = '+'
    · rw [hc]
      exact .inl rfl
    · exact .inr (unsigned_of_head hc text).symm

/-- A numeral is digits when its sign is taken away. -/
theorem standsFor_iff {text : List Char} {n : Nat} :
    StandsFor text n ↔ unsigned text ≠ [] ∧ (∀ c ∈ unsigned text, c.isDigit = true) ∧
      ofChars (unsigned text) = n := by
  constructor
  · rintro (⟨hne, hdigits⟩ | ⟨hne, hdigits⟩)
    · obtain ⟨c, more, rfl⟩ := List.exists_cons_of_ne_nil hne
      have hplus : c ≠ '+' := by
        rintro rfl
        exact absurd (hdigits '+' List.mem_cons_self) (by decide)
      rw [unsigned_of_head hplus]
      exact ⟨hne, hdigits, rfl⟩
    · exact ⟨hne, hdigits, rfl⟩
  · rintro ⟨hne, hdigits, rfl⟩
    rcases unsigned_cases text with htext | htext
    · have hsigned := StandsFor.signed hne hdigits
      rwa [← htext] at hsigned
    · have hplain := StandsFor.plain hne hdigits
      rwa [← htext] at hplain ⊢

/-! ### The digits from the left -/

/-- With digits taken that are within the bound, a text is read whole if all of it are digits that
stay within the bound.  Otherwise the bound is the fault if the leading digits pass it, whatever
follows them. -/
theorem readDigits_eq (bound : Nat) (taken text : List Char) (htaken : ofChars taken ≤ bound) :
    readDigits bound (ofChars taken) text =
      if bound < ofChars (taken ++ text.takeWhile Char.isDigit) then .error .tooLarge
      else if text.dropWhile Char.isDigit = [] then .ok (ofChars (taken ++ text))
      else .error .invalidDigit := by
  induction text generalizing taken with
  | nil =>
    rw [List.takeWhile_nil, List.append_nil, if_neg (by omega)]
    rfl
  | cons c text ih =>
    by_cases hc : c.isDigit = true
    · rw [readDigits, if_pos hc, List.takeWhile_cons_of_pos hc, List.dropWhile_cons_of_pos hc,
        List.append_cons, List.append_cons taken c text, ← ofChars_append_singleton]
      by_cases hfits : ofChars (taken ++ [c]) ≤ bound
      · simp only [if_pos hfits]
        exact ih (taken ++ [c]) hfits
      · -- The bound is passed at this digit, so all digits together pass it.
        have hmore := ofChars_le_append (taken ++ [c]) (text.takeWhile Char.isDigit)
        simp only [if_neg hfits]
        rw [if_pos (by omega)]
    · rw [readDigits, if_neg hc, List.takeWhile_cons_of_neg hc, List.dropWhile_cons_of_neg hc,
        List.append_nil, if_neg (by omega), if_neg (List.cons_ne_nil _ _)]

/-- A text is read behind its sign, where something has to stand. -/
theorem read_eq (bound : Nat) (text : List Char) :
    read bound text =
      if text = [] then .error .empty
      else if unsigned text = [] then .error .invalidDigit
      else if bound < ofChars (leadingDigits text) then .error .tooLarge
      else if (unsigned text).dropWhile Char.isDigit = [] then .ok (ofChars (unsigned text))
      else .error .invalidDigit := by
  have hdigits := readDigits_eq bound [] (unsigned text) (Nat.zero_le _)
  cases text with
  | nil => rfl
  | cons c text =>
    rw [if_neg (List.cons_ne_nil c text)]
    by_cases hc : c = '+'
    · subst hc
      cases text with
      | nil => rfl
      | cons d text => exact hdigits
    · have hread : read bound (c :: text) = readDigits bound 0 (c :: text) := by
        simp [read, hc]
      rw [unsigned_of_head hc] at hdigits
      rw [leadingDigits, unsigned_of_head hc, if_neg (List.cons_ne_nil c text), hread]
      exact hdigits

/-! ### Which texts are read -/

/-- Why a text is no numeral within the bound. -/
def ReadFault.AppliesTo (bound : Nat) (text : List Char) : ReadFault → Prop
  | .empty => text = []
  | .tooLarge => bound < ofChars (leadingDigits text)
  | .invalidDigit => text ≠ [] ∧ ofChars (leadingDigits text) ≤ bound ∧
      (unsigned text = [] ∨
        ∃ c rest, unsigned text = leadingDigits text ++ c :: rest ∧ c.isDigit = false)

namespace ReadFault

variable {bound : Nat} {text : List Char} {fault : ReadFault}

theorem AppliesTo.eq_empty_iff (h : fault.AppliesTo bound text) : fault = .empty ↔ text = [] := by
  constructor
  · rintro rfl
    exact h
  · rintro rfl
    cases fault with
    | empty => rfl
    | tooLarge => exact absurd h (Nat.not_lt_zero bound)
    | invalidDigit => exact absurd rfl h.1

theorem AppliesTo.eq_tooLarge_iff (h : fault.AppliesTo bound text) :
    fault = .tooLarge ↔ bound < ofChars (leadingDigits text) := by
  constructor
  · rintro rfl
    exact h
  · intro hbound
    cases fault with
    | empty =>
      obtain rfl : text = [] := h
      exact absurd hbound (Nat.not_lt_zero bound)
    | tooLarge => rfl
    | invalidDigit => exact absurd hbound (Nat.not_lt.2 h.2.1)

theorem AppliesTo.eq_invalidDigit_iff (h : fault.AppliesTo bound text) :
    fault = .invalidDigit ↔ text ≠ [] ∧ ofChars (leadingDigits text) ≤ bound := by
  constructor
  · rintro rfl
    exact ⟨h.1, h.2.1⟩
  · rintro ⟨htext, hbound⟩
    cases fault with
    | empty => exact absurd h htext
    | tooLarge => exact absurd h (Nat.not_lt.2 hbound)
    | invalidDigit => rfl

/-- The three messages are different. -/
theorem message_inj {other : ReadFault} (h : fault.message = other.message) : fault = other := by
  revert h
  cases fault <;> cases other <;> decide

end ReadFault

theorem leadingDigits_append (text : List Char) :
    leadingDigits text ++ (unsigned text).dropWhile Char.isDigit = unsigned text :=
  List.takeWhile_append_dropWhile

/-- What is left behind the leading digits begins with a character that is no digit. -/
theorem dropWhile_ne_nil_iff {text : List Char} :
    (unsigned text).dropWhile Char.isDigit ≠ [] ↔
      ∃ c rest, unsigned text = leadingDigits text ++ c :: rest ∧ c.isDigit = false := by
  have hparts := leadingDigits_append text
  constructor
  · intro hne
    obtain ⟨c, rest, hrest⟩ := List.exists_cons_of_ne_nil hne
    have hhead := List.head?_dropWhile_not Char.isDigit (unsigned text)
    rw [hrest] at hparts hhead
    exact ⟨c, rest, hparts.symm, by simpa using hhead⟩
  · rintro ⟨c, rest, hrest, -⟩ hnil
    rw [hnil, hrest] at hparts
    exact absurd (List.append_cancel_left hparts).symm (List.cons_ne_nil _ _)

/-- Nothing is left behind the leading digits if there are only digits. -/
theorem dropWhile_eq_nil_iff {text : List Char} :
    (unsigned text).dropWhile Char.isDigit = [] ↔ ∀ c ∈ unsigned text, c.isDigit = true := by
  constructor
  · intro hnil c hc
    rw [← leadingDigits_append, hnil, List.append_nil] at hc
    exact List.all_eq_true.1 List.all_takeWhile c hc
  · intro hdigits
    have hdrop : (unsigned text ++ []).dropWhile Char.isDigit = [] :=
      List.dropWhile_append_of_pos hdigits
    rwa [List.append_nil] at hdrop

theorem leadingDigits_eq {text : List Char} (h : ∀ c ∈ unsigned text, c.isDigit = true) :
    leadingDigits text = unsigned text := by
  have hparts := leadingDigits_append text
  rwa [dropWhile_eq_nil_iff.2 h, List.append_nil] at hparts

/-- A numeral within the bound is read. -/
theorem read_of_standsFor {bound : Nat} {text : List Char} {n : Nat} (h : StandsFor text n)
    (hbound : n ≤ bound) : read bound text = .ok n := by
  obtain ⟨hsome, hdigits, rfl⟩ := standsFor_iff.1 h
  have htext : text ≠ [] := by
    rintro rfl
    exact hsome rfl
  rw [read_eq, if_neg htext, if_neg hsome, leadingDigits_eq hdigits, if_neg (by omega),
    if_pos (dropWhile_eq_nil_iff.2 hdigits)]

/-- A text to which a fault applies is refused for it. -/
theorem read_of_appliesTo {bound : Nat} {text : List Char} {fault : ReadFault}
    (h : fault.AppliesTo bound text) : read bound text = .error fault := by
  rw [read_eq]
  cases fault with
  | empty => exact if_pos h
  | tooLarge =>
    have hsome : unsigned text ≠ [] := by
      intro hnil
      have hzero : ofChars (leadingDigits text) = 0 := by
        rw [leadingDigits, hnil]
        rfl
      have hpassed : bound < ofChars (leadingDigits text) := h
      omega
    have htext : text ≠ [] := by
      rintro rfl
      exact hsome rfl
    rw [if_neg htext, if_neg hsome]
    exact if_pos h
  | invalidDigit =>
    obtain ⟨htext, hbound, hnone | hundigit⟩ := h
    · rw [if_neg htext, if_pos hnone]
    · rw [if_neg htext, if_neg (Nat.not_lt.2 hbound), if_neg (dropWhile_ne_nil_iff.2 hundigit),
        ite_self]

/-- Every text is a numeral within the bound, or a fault applies to it. -/
theorem standsFor_or_appliesTo (bound : Nat) (text : List Char) :
    (∃ n, StandsFor text n ∧ n ≤ bound) ∨ ∃ fault : ReadFault, fault.AppliesTo bound text := by
  by_cases htext : text = []
  · exact .inr ⟨.empty, htext⟩
  by_cases hbound : bound < ofChars (leadingDigits text)
  · exact .inr ⟨.tooLarge, hbound⟩
  have hfits := Nat.le_of_not_lt hbound
  by_cases hnone : unsigned text = []
  · exact .inr ⟨.invalidDigit, htext, hfits, .inl hnone⟩
  by_cases hdigits : ∀ c ∈ unsigned text, c.isDigit = true
  · rw [leadingDigits_eq hdigits] at hfits
    exact .inl ⟨_, standsFor_iff.2 ⟨hnone, hdigits, rfl⟩, hfits⟩
  · have hundigit := dropWhile_ne_nil_iff.1 fun hnil => hdigits (dropWhile_eq_nil_iff.1 hnil)
    exact .inr ⟨.invalidDigit, htext, hfits, .inr hundigit⟩

/-- A text is read just if it is a numeral within the bound. -/
theorem read_eq_ok_iff {bound : Nat} {text : List Char} {n : Nat} :
    read bound text = .ok n ↔ StandsFor text n ∧ n ≤ bound := by
  refine ⟨fun h => ?_, fun ⟨hnumeral, hbound⟩ => read_of_standsFor hnumeral hbound⟩
  rcases standsFor_or_appliesTo bound text with ⟨m, hnumeral, hbound⟩ | ⟨fault, hfault⟩
  · rw [read_of_standsFor hnumeral hbound] at h
    cases h
    exact ⟨hnumeral, hbound⟩
  · rw [read_of_appliesTo hfault] at h
    cases h

/-- A text is refused for the fault that applies to it. -/
theorem read_eq_error_iff {bound : Nat} {text : List Char} {fault : ReadFault} :
    read bound text = .error fault ↔ fault.AppliesTo bound text := by
  refine ⟨fun h => ?_, read_of_appliesTo⟩
  rcases standsFor_or_appliesTo bound text with ⟨m, hnumeral, hbound⟩ | ⟨other, hother⟩
  · rw [read_of_standsFor hnumeral hbound] at h
    cases h
  · rw [read_of_appliesTo hother] at h
    cases h
    exact hother

end ProgramSupport.Decimal
