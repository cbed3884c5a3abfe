import ProgramSupport.Proofs.Source.Stream

/-!
# Reading digits

The reader of integers collects digits towards the negative numbers, with a check at each digit.
This file provides

* `Decimal.ofBytes` — the number that the bytes of digits stand for;
* `Numeral.Collects` — digits whose value can be collected as a negative number;
* `Numeral.run_collected` and `Numeral.run_overflow` — digits are taken whole, or up to the first
  that takes the value out of range;
* `Numeral.run_digits` — the digits of a number are taken whole, if its negative is an integer of
  the machine;
* `Numeral.result_written` — what a written integer gives when it is read;
* `Stream.int_written` — a written integer is read back, and the byte behind it stays.

The digits taken so far are the state of the loop: `Numeral.ofDigits` is what is collected of them.
-/

namespace ProgramSupport

/-! ### Digits -/

namespace Ascii

def isDigit (b : UInt8) : Bool := decide (48 ≤ b) && decide (b ≤ 57)

/-- No digit is a byte before the digit zero. -/
theorem isDigit_ne {b c : UInt8} (h : isDigit b = true) (hc : c < 48) : b ≠ c := by
  rw [isDigit, Bool.and_eq_true, decide_eq_true_eq, decide_eq_true_eq] at h
  rintro rfl
  exact UInt8.not_le.2 hc h.1

end Ascii

namespace Decimal

/-- The number that the bytes of digits stand for. -/
def ofBytes (bytes : List UInt8) : Nat := value (bytes.map fun b => b.toNat - 48)

theorem ofBytes_append_singleton (bytes : List UInt8) (b : UInt8) :
    ofBytes (bytes ++ [b]) = 10 * ofBytes bytes + (b.toNat - 48) := by
  rw [ofBytes, List.map_append, List.map_singleton, value_append_singleton]
  rfl

theorem ofBytes_le_append (bytes more : List UInt8) : ofBytes bytes ≤ ofBytes (bytes ++ more) := by
  rw [ofBytes, ofBytes, List.map_append]
  exact value_le_append _ _

theorem digit?_eq (b : UInt8) :
    digit? b = if Ascii.isDigit b = true then some (b.toNat - 48) else none := by
  simp only [digit?, Ascii.isDigit, Bool.and_eq_true, decide_eq_true_eq]

end Decimal

namespace Numeral

/-- What is collected of some digits. -/
def ofDigits (digits : List UInt8) : Numeral := ⟨-(Decimal.ofBytes digits : Int), digits.length⟩

/-- The value of the digits can be collected: its negative is an integer of the machine. -/
def Collects (digits : List UInt8) : Prop :=
  Int64.minValue.toInt ≤ -(Decimal.ofBytes digits : Int)

instance decidableCollects (digits : List UInt8) : Decidable (Collects digits) :=
  inferInstanceAs (Decidable (_ ≤ _))

/-- What can be collected can be collected up to each of its digits. -/
theorem Collects.of_append {digits more : List UInt8} (h : Collects (digits ++ more)) :
    Collects digits := by
  have hle := Decimal.ofBytes_le_append digits more
  unfold Collects at h ⊢
  omega

/-- One more digit is taken if the value can still be collected. -/
theorem push?_ofDigits (digits : List UInt8) (b : UInt8) :
    (ofDigits digits).push? (b.toNat - 48) =
      if Collects (digits ++ [b]) then some (ofDigits (digits ++ [b])) else none := by
  have hvalue : 10 * -(Decimal.ofBytes digits : Int) - (b.toNat - 48 : Nat) =
      -(Decimal.ofBytes (digits ++ [b]) : Int) := by
    rw [Decimal.ofBytes_append_singleton]
    omega
  simp only [push?, ofDigits, Collects, hvalue, List.length_append, List.length_singleton]

/-- Digits whose value can be collected are taken whole. -/
theorem run_collected (taken : List UInt8) {more : List UInt8}
    (hmore : ∀ b ∈ more, Ascii.isDigit b = true)
    (h : Collects (taken ++ more)) :
    (ofDigits taken).run more = .exhausted (ofDigits (taken ++ more)) := by
  induction more generalizing taken with
  | nil => rw [List.append_nil]; rfl
  | cons b more ih =>
    have hb : Ascii.isDigit b = true := hmore b List.mem_cons_self
    rw [List.append_cons] at h ⊢
    rw [run, Decimal.digit?_eq, if_pos hb]
    simp only [push?_ofDigits, if_pos h.of_append]
    exact ih (taken ++ [b]) (fun c hc => hmore c (List.mem_cons_of_mem _ hc)) h

/-- Other digits are taken up to the first that takes the value out of range. -/
theorem run_overflow (taken : List UInt8) {more : List UInt8}
    (hmore : ∀ b ∈ more, Ascii.isDigit b = true)
    (htaken : Collects taken) (h : ¬Collects (taken ++ more)) :
    ∃ kept b left, more = kept ++ b :: left ∧ Collects (taken ++ kept) ∧
      ¬Collects (taken ++ kept ++ [b]) ∧ (ofDigits taken).run more = .overflow (b :: left) := by
  induction more generalizing taken with
  | nil =>
    rw [List.append_nil] at h
    exact absurd htaken h
  | cons b more ih =>
    have hb : Ascii.isDigit b = true := hmore b List.mem_cons_self
    rw [run, Decimal.digit?_eq, if_pos hb]
    simp only [push?_ofDigits]
    by_cases hnext : Collects (taken ++ [b])
    · rw [List.append_cons] at h
      obtain ⟨kept, c, left, hmore', hkept, hstop, hrun⟩ :=
        ih (taken ++ [b]) (fun c hc => hmore c (List.mem_cons_of_mem _ hc)) hnext h
      rw [← List.append_cons] at hkept hstop
      refine ⟨b :: kept, c, left, by rw [hmore', List.cons_append], hkept, hstop, ?_⟩
      simp only [if_pos hnext]
      exact hrun
    · refine ⟨[], b, more, rfl, by rw [List.append_nil]; exact htaken, ?_, ?_⟩
      · rw [List.append_nil]
        exact hnext
      · simp only [if_neg hnext]

end Numeral

/-! ### Digits of a number -/

namespace Decimal

/-- The byte of a digit stands for the digit. -/
theorem byte_isDigit : ∀ d, d < 10 → Ascii.isDigit (UInt8.ofNat (48 + d)) = true ∧
    (UInt8.ofNat (48 + d)).toNat - 48 = d := by decide

/-- The byte of a digit is no space and no sign. -/
theorem byte_not_space : ∀ d, d < 10 → Ascii.isSpace (UInt8.ofNat (48 + d)) = false ∧
    UInt8.ofNat (48 + d) ≠ Ascii.minus ∧ UInt8.ofNat (48 + d) ≠ Ascii.plus := by decide

/-- A number has a first digit. -/
theorem exists_digits_eq_cons (n : Nat) : ∃ d ds, digits n = d :: ds ∧ d < 10 := by
  fun_induction digits n with
  | case1 n h => exact ⟨n, [], rfl, h⟩
  | case2 n h ih =>
    obtain ⟨d, ds, hdigits, hd⟩ := ih
    refine ⟨d, ds ++ [n % 10], ?_, hd⟩
    rw [hdigits, List.cons_append]

theorem digits_lt (n : Nat) : ∀ d ∈ digits n, d < 10 := by
  fun_induction digits n with
  | case1 n h => simpa using h
  | case2 n h ih =>
    intro d hd
    rcases List.mem_append.1 hd with hd | hd
    · exact ih d hd
    · rw [List.mem_singleton.1 hd]
      exact Nat.mod_lt n (by decide)

theorem isDigit_of_mem_bytes {ds : List Nat} (h : ∀ d ∈ ds, d < 10) :
    ∀ b ∈ bytes ds, Ascii.isDigit b = true := by
  intro b hb
  obtain ⟨d, hd, rfl⟩ := List.mem_map.1 hb
  exact (byte_isDigit d (h d hd)).1

/-- The bytes of digits stand for the number that the digits stand for. -/
theorem ofBytes_bytes {ds : List Nat} (h : ∀ d ∈ ds, d < 10) : ofBytes (bytes ds) = value ds := by
  have hback : (bytes ds).map (fun b => b.toNat - 48) = ds := by
    rw [bytes, List.map_map]
    exact (List.map_congr_left fun d hd => (byte_isDigit d (h d hd)).2).trans (List.map_id _)
  rw [ofBytes, hback]

/-- The bytes of a number are digits that stand for it. -/
theorem bytes_digits (n : Nat) :
    (∀ b ∈ bytes (digits n), Ascii.isDigit b = true) ∧ ofBytes (bytes (digits n)) = n :=
  ⟨isDigit_of_mem_bytes (digits_lt n), by rw [ofBytes_bytes (digits_lt n), value_digits]⟩

end Decimal

namespace Numeral

/-- The digits of a number are taken whole if its negative is an integer of the machine. -/
theorem run_digits (k : Nat) (h : Int64.minValue.toInt ≤ -(k : Int)) :
    run ⟨0, 0⟩ (Decimal.bytes (Decimal.digits k)) =
      .exhausted ⟨-(k : Int), (Decimal.digits k).length⟩ := by
  obtain ⟨hall, hvalue⟩ := Decimal.bytes_digits k
  have hcollects : Collects ([] ++ Decimal.bytes (Decimal.digits k)) := by
    rw [Collects, List.nil_append, hvalue]
    exact h
  have hwhole : ofDigits (Decimal.bytes (Decimal.digits k)) =
      ⟨-(k : Int), (Decimal.digits k).length⟩ := by
    rw [ofDigits, hvalue, Decimal.bytes, List.length_map]
  rw [← hwhole]
  exact run_collected [] hall hcollects

/-- The digits of an integer, with its sign apart, give the integer. -/
theorem result_written (value : Int64) {count : Nat} (hcount : count ≠ 0) :
    result ⟨-(value.toInt.natAbs : Int), count⟩ (decide (value.toInt < 0)) = .ok value := by
  have hmax : value.toInt ≤ Int64.maxValue.toInt := Int64.toInt_le value
  unfold result
  rw [if_neg hcount]
  by_cases hneg : value.toInt < 0
  · have hvalue : -(value.toInt.natAbs : Int) = value.toInt := by omega
    rw [if_pos (decide_eq_true hneg), hvalue, Int64.ofInt_toInt]
  · have hvalue : - -(value.toInt.natAbs : Int) = value.toInt := by omega
    rw [if_neg (by simpa using hneg), hvalue, if_pos hmax, Int64.ofInt_toInt]

end Numeral

namespace Stream

/-- The digits of an integer are read up to the first byte that is no digit. -/
theorem digitsFrom_written (value : Int64) {b : UInt8} (hb : Decimal.digit? b = none)
    (cells : List Cell) :
    digitsFrom (decide (value.toInt < 0)) ⟨0, 0⟩
        ((Decimal.bytes (Decimal.digits value.toInt.natAbs)).map .byte ++ .byte b :: cells) =
      (.ok value, .byte b :: cells) := by
  have hmin : Int64.minValue.toInt ≤ value.toInt := Int64.le_toInt value
  have hbound : Int64.minValue.toInt ≤ -(value.toInt.natAbs : Int) := by
    have hmax : value.toInt ≤ Int64.maxValue.toInt := Int64.toInt_le value
    have hends : Int64.minValue.toInt = -Int64.maxValue.toInt - 1 := by decide
    omega
  have hcount : (Decimal.digits value.toInt.natAbs).length ≠ 0 := by
    obtain ⟨d, ds, hdigits, -⟩ := Decimal.exists_digits_eq_cons value.toInt.natAbs
    rw [hdigits]
    exact Nat.succ_ne_zero _
  rw [digitsFrom_append, Numeral.run_digits _ hbound]
  simp only [digitsFrom, hb, Numeral.result_written value hcount]

/-- A written integer is read back, and the byte behind it stays unread. -/
theorem int_written (value : Int64) {b : UInt8} (hb : Decimal.digit? b = none)
    (cells : List Cell) :
    int ((Decimal.ofInteger value.toInt).map .byte ++ .byte b :: cells) =
      (.ok value, .byte b :: cells) := by
  have hdigits := digitsFrom_written value hb cells
  unfold Decimal.ofInteger
  by_cases hneg : value.toInt < 0
  · rw [if_pos hneg]
    rw [decide_eq_true hneg] at hdigits
    exact hdigits
  · obtain ⟨d, ds, hcons, hd⟩ := Decimal.exists_digits_eq_cons value.toInt.natAbs
    obtain ⟨hspace, hminus, hplus⟩ := Decimal.byte_not_space d hd
    have hcell : ¬isSpace (.byte (UInt8.ofNat (48 + d))) = true := by
      intro h
      rw [isSpace, hspace] at h
      cases h
    rw [if_neg hneg, List.nil_append]
    rw [decide_eq_false hneg, hcons] at hdigits
    rw [hcons, int]
    show signed (List.dropWhile isSpace (.byte (UInt8.ofNat (48 + d)) :: _)) = _
    rw [List.dropWhile_cons_of_neg hcell, signed, if_neg hminus, if_neg hplus]
    exact hdigits

end Stream

end ProgramSupport
