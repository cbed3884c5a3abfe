import ProgramSupport.Proofs.Source.Numerals

/-!
# Integers at the beginning of a text

An integer is looked for behind the spaces at the beginning of a text: a sign, if there is one, and
then digits.  This file provides

* `Token` — a text in these parts, `Token.ofBytes`, and `Token.value`, the integer that sign and
  digits stand for;
* `Token.Course` — how the reading of an integer ends and what it leaves, with one constructor for
  each of its results, and `Stream.int_course`;
* `Source.readInt_ends` — which texts give which result, and what is left unread;
* `Source.readInt_overflow` — a value out of range leaves the digits unread from the one that takes
  it there on, and the next read takes them for an integer.
-/

namespace ProgramSupport

/-! ### The parts of a text -/

namespace Ascii

def isSign (b : UInt8) : Bool := b == plus || b == minus

/-- No digit is a space or a sign. -/
theorem isDigit_apart {b : UInt8} (h : isDigit b = true) :
    isSpace b = false ∧ isSign b = false := by
  have hapart (c : UInt8) (hc : c < 48) : (b == c) = false :=
    beq_eq_false_iff_ne.2 (isDigit_ne h hc)
  simp [isSpace, isSign, hapart, newline, plus, minus]

end Ascii

/-- A text in which an integer is looked for, in its parts. -/
structure Token where
  spaces : List UInt8
  /-- At most one byte. -/
  sign : List UInt8
  digits : List UInt8
  behind : List UInt8
deriving Repr, DecidableEq

namespace Token

/-- The parts of a text: as many spaces as there are, a sign if there is one, and as many digits as
there are. -/
def ofBytes (bytes : List UInt8) : Token :=
  let signed := bytes.dropWhile Ascii.isSpace
  let sign := (signed.take 1).filter Ascii.isSign
  let numeral := signed.drop sign.length
  { spaces := bytes.takeWhile Ascii.isSpace
    sign
    digits := numeral.takeWhile Ascii.isDigit
    behind := numeral.dropWhile Ascii.isDigit }

/-- The text without its spaces. -/
def unspaced (t : Token) : List UInt8 := t.sign ++ t.digits ++ t.behind

/-- The integer that sign and digits stand for. -/
def value (t : Token) : Int :=
  if t.sign = [Ascii.minus] then -(Decimal.ofBytes t.digits : Int) else Decimal.ofBytes t.digits

/-- The value is an integer of the machine. -/
def InRange (t : Token) : Prop :=
  Int64.minValue.toInt ≤ t.value ∧ t.value ≤ Int64.maxValue.toInt

instance decidableInRange (t : Token) : Decidable t.InRange := inferInstanceAs (Decidable (_ ∧ _))

theorem value_of_minus {t : Token} (h : t.sign = [Ascii.minus]) :
    t.value = -(Decimal.ofBytes t.digits : Int) := if_pos h

theorem value_of_not_minus {t : Token} (h : t.sign ≠ [Ascii.minus]) :
    t.value = Decimal.ofBytes t.digits := if_neg h

theorem inRange_of_toInt {t : Token} {n : Int64} (h : n.toInt = t.value) : t.InRange := by
  rw [InRange, ← h]
  exact ⟨Int64.le_toInt n, Int64.toInt_le n⟩

/-- The value of an integer in range can be collected. -/
theorem InRange.collects {t : Token} (h : t.InRange) : Numeral.Collects t.digits := by
  have hends : Int64.minValue.toInt = -Int64.maxValue.toInt - 1 := by decide
  obtain ⟨hmin, hmax⟩ := h
  unfold Numeral.Collects
  by_cases hminus : t.sign = [Ascii.minus]
  · rw [value_of_minus hminus] at hmin
    exact hmin
  · rw [value_of_not_minus hminus] at hmax
    omega

/-- A value that can be collected is in range, but for one without a minus that is the greatest
integer and one. -/
theorem inRange_of_collects {t : Token} (h : Numeral.Collects t.digits)
    (hvalue : t.value ≠ Int64.maxValue.toInt + 1) : t.InRange := by
  have hends : Int64.minValue.toInt = -Int64.maxValue.toInt - 1 := by decide
  have hpos : 0 ≤ Int64.maxValue.toInt := by decide
  unfold Numeral.Collects at h
  by_cases hminus : t.sign = [Ascii.minus]
  · rw [InRange, value_of_minus hminus]
    omega
  · rw [value_of_not_minus hminus] at hvalue
    rw [InRange, value_of_not_minus hminus]
    omega

theorem digits_eq_nil {t : Token} (h : t.unspaced = []) : t.digits = [] := by
  rw [unspaced, List.append_eq_nil_iff, List.append_eq_nil_iff] at h
  exact h.1.2

/-- The parts make up the text. -/
theorem parts_ofBytes (bytes : List UInt8) :
    (ofBytes bytes).spaces ++ (ofBytes bytes).unspaced = bytes := by
  have hsign (signed : List UInt8) : (signed.take 1).filter Ascii.isSign ++
      signed.drop ((signed.take 1).filter Ascii.isSign).length = signed := by
    cases signed with
    | nil => rfl
    | cons b rest =>
      rw [List.take_succ_cons, List.take_zero, List.filter_cons]
      split <;> rfl
  simp only [unspaced, ofBytes]
  rw [List.append_assoc, List.takeWhile_append_dropWhile, hsign, List.takeWhile_append_dropWhile]

/-- The digits are digits, and no digit stands behind them. -/
structure Proper (t : Token) : Prop where
  digits_all : ∀ b ∈ t.digits, Ascii.isDigit b = true
  behind_head : ∀ b rest, t.behind = b :: rest → Ascii.isDigit b = false

theorem proper_ofBytes (bytes : List UInt8) : (ofBytes bytes).Proper where
  digits_all := by
    intro b hb
    exact List.all_eq_true.1 List.all_takeWhile b hb
  behind_head := by
    intro b rest hbehind
    have hdrop : ((bytes.dropWhile Ascii.isSpace).drop (ofBytes bytes).sign.length).dropWhile
      Ascii.isDigit = b :: rest := hbehind
    have hhead := List.head?_dropWhile_not Ascii.isDigit
      ((bytes.dropWhile Ascii.isSpace).drop (ofBytes bytes).sign.length)
    rw [hdrop] at hhead
    simpa using hhead

/-! ### Courses of a read -/

/-- How the reading of an integer ends and what it leaves, told of the parts of the text. -/
inductive Course (t : Token) : Except Violation Int64 × List Cell → Prop where
  /-- Nothing follows the spaces. -/
  | ended (h : t.unspaced = []) :
      Course t (.error (.invalidInteger "unexpected end of input"), [])
  /-- Something follows the spaces, but no digits. -/
  | missing (h : t.unspaced ≠ []) (hdigits : t.digits = []) :
      Course t (.error (.invalidInteger "expected a decimal integer"), t.behind.map .byte)
  | read (n : Int64) (hdigits : t.digits ≠ []) (hvalue : n.toInt = t.value) :
      Course t (.ok n, t.behind.map .byte)
  /-- Digits stay unread from the first on that takes the collected value out of range; none do if
  only the sign does. -/
  | overflow (taken left : List UInt8) (hparts : t.digits = taken ++ left)
      (hdigits : t.digits ≠ []) (hrange : ¬t.InRange) (htaken : Numeral.Collects taken)
      (hleft : ∀ b more, left = b :: more → ¬Numeral.Collects (taken ++ [b])) :
      Course t (.error (.invalidInteger "integer out of range"), (left ++ t.behind).map .byte)

/-- What is collected of digits, with their sign, is the value of the integer if it is in range. -/
theorem result_ofDigits {t : Token} (hdigits : t.digits ≠ []) {negative : Bool}
    (hnegative : negative = decide (t.sign = [Ascii.minus])) :
    (Numeral.ofDigits t.digits).result negative =
      if t.value ≤ Int64.maxValue.toInt then .ok (.ofInt t.value)
      else .error (.invalidInteger "integer out of range") := by
  have hcount : (Numeral.ofDigits t.digits).count ≠ 0 := by
    intro hzero
    exact hdigits (List.length_eq_zero_iff.1 hzero)
  rw [Numeral.result, if_neg hcount, hnegative]
  by_cases hminus : t.sign = [Ascii.minus]
  · have hpos : 0 ≤ Int64.maxValue.toInt := by decide
    rw [value_of_minus hminus, if_pos (decide_eq_true hminus), if_pos (by omega)]
    rfl
  · have hvalue : -(Numeral.ofDigits t.digits).value = t.value := by
      rw [value_of_not_minus hminus]
      exact Int.neg_neg _
    rw [if_neg (by simpa using hminus), hvalue]

/-- How the reading of digits ends, if something follows the spaces. -/
theorem Course.of_digits {t : Token} (hproper : t.Proper)
    (hsome : t.unspaced ≠ []) (negative : Bool)
    (hnegative : negative = decide (t.sign = [Ascii.minus])) :
    t.Course (Stream.digitsFrom negative ⟨0, 0⟩ ((t.digits ++ t.behind).map .byte)) := by
  have hbehind (n : Numeral) : Stream.digitsFrom negative n (t.behind.map .byte) =
      (n.result negative, t.behind.map .byte) := by
    cases hrest : t.behind with
    | nil => rfl
    | cons b rest =>
      have hb := hproper.behind_head b rest hrest
      rw [List.map_cons, Stream.digitsFrom, Decimal.digit?_eq, if_neg (by rw [hb]; decide)]
  rw [List.map_append, Stream.digitsFrom_append]
  by_cases hcollects : Numeral.Collects t.digits
  · have hrun : Numeral.run ⟨0, 0⟩ t.digits = .exhausted (.ofDigits t.digits) :=
      Numeral.run_collected [] hproper.digits_all hcollects
    rw [hrun]
    simp only [hbehind]
    by_cases hdigits : t.digits = []
    · rw [hdigits]
      exact .missing hsome hdigits
    · rw [result_ofDigits hdigits hnegative]
      by_cases hmax : t.value ≤ Int64.maxValue.toInt
      · have hrange : t.InRange := inRange_of_collects hcollects (by omega)
        rw [if_pos hmax]
        refine .read _ hdigits (Int64.toInt_ofInt_of_le hrange.1 ?_)
        exact Int.lt_of_le_of_lt hmax (by decide)
      · -- The digits are taken whole, and only their sign is missing.
        rw [if_neg hmax]
        refine .overflow t.digits [] (List.append_nil _).symm hdigits (fun h => hmax h.2) hcollects ?_
        intro b more hmore
        cases hmore
  · obtain ⟨kept, b, left, hparts, hkept, hstop, hrun⟩ :=
      Numeral.run_overflow [] hproper.digits_all (by decide) hcollects
    have hrun' : Numeral.run ⟨0, 0⟩ t.digits = .overflow (b :: left) := hrun
    rw [hrun']
    simp only [← List.map_append]
    refine .overflow kept (b :: left) hparts ?_ (fun h => hcollects h.collects) hkept ?_
    · rw [hparts]
      exact List.append_ne_nil_of_right_ne_nil _ (List.cons_ne_nil _ _)
    · intro c more hmore
      cases hmore
      exact hstop

/-- How the reading of what follows the spaces ends. -/
theorem Course.of_signed {t : Token} (hproper : t.Proper) {signed : List UInt8}
    (hsign : t.sign = (signed.take 1).filter Ascii.isSign)
    (hnumeral : t.digits ++ t.behind = signed.drop t.sign.length) :
    t.Course (Stream.signed (signed.map .byte)) := by
  cases signed with
  | nil =>
    refine .ended ?_
    rw [unspaced, List.append_assoc, hnumeral, hsign]
    rfl
  | cons b rest =>
    rw [List.take_succ_cons, List.take_zero, List.filter_cons, List.filter_nil] at hsign
    rw [List.map_cons, Stream.signed]
    by_cases hb : Ascii.isSign b = true
    · rw [if_pos hb] at hsign
      rw [hsign, List.length_singleton, List.drop_succ_cons, List.drop_zero] at hnumeral
      have hsome : t.unspaced ≠ [] := by
        rw [unspaced, hsign, List.append_assoc, List.singleton_append]
        exact List.cons_ne_nil _ _
      have hdigits := of_digits hproper hsome
      rw [hnumeral] at hdigits
      by_cases hminus : b = Ascii.minus
      · rw [if_pos hminus]
        exact hdigits true (by rw [hsign, hminus]; rfl)
      · have hplus : b = Ascii.plus := by
          simpa [Ascii.isSign, hminus] using hb
        rw [if_neg hminus, if_pos hplus]
        exact hdigits false (by rw [hsign, hplus]; rfl)
    · rw [if_neg hb] at hsign
      rw [hsign, List.length_nil, List.drop_zero] at hnumeral
      have hsome : t.unspaced ≠ [] := by
        rw [unspaced, List.append_assoc, hnumeral]
        exact List.append_ne_nil_of_right_ne_nil _ (List.cons_ne_nil _ _)
      have hdigits := of_digits hproper hsome false (by rw [hsign]; rfl)
      have hnone : b ≠ Ascii.plus ∧ b ≠ Ascii.minus := by
        simpa [Ascii.isSign] using hb
      rw [hnumeral] at hdigits
      rw [if_neg hnone.2, if_neg hnone.1]
      exact hdigits

end Token

/-- Every text is read in one of these courses. -/
theorem Stream.int_course (bytes : List UInt8) :
    (Token.ofBytes bytes).Course (Stream.int (bytes.map .byte)) := by
  have hspaces : (bytes.map Cell.byte).dropWhile Stream.isSpace =
      (bytes.dropWhile Ascii.isSpace).map .byte := List.dropWhile_map ..
  rw [Stream.int, hspaces]
  exact .of_signed (Token.proper_ofBytes bytes) rfl List.takeWhile_append_dropWhile

/-- How the reading of an integer from a text in parts has to end, with what it gives and what it
leaves. -/
structure Token.Ends (t : Token) (result : Except Violation Int64) (rest : List Cell) : Prop where
  ok_iff : (∃ n, result = .ok n) ↔ t.digits ≠ [] ∧ t.InRange
  of_ok : ∀ n, result = .ok n → n.toInt = t.value ∧ rest = t.behind.map .byte
  outOfRange_iff : result = .error (.invalidInteger "integer out of range") ↔
    t.digits ≠ [] ∧ ¬t.InRange
  ended_iff : result = .error (.invalidInteger "unexpected end of input") ↔
    t.unspaced = []
  of_ended : result = .error (.invalidInteger "unexpected end of input") → rest = []
  missing_iff : result = .error (.invalidInteger "expected a decimal integer") ↔
    t.unspaced ≠ [] ∧ t.digits = []
  of_missing : result = .error (.invalidInteger "expected a decimal integer") →
    rest = t.behind.map .byte

/-- Each course ends as it has to. -/
theorem Token.Course.ends {t : Token} {result : Except Violation Int64} {rest : List Cell}
    (h : t.Course (result, rest)) : t.Ends result rest := by
  cases h with
  | ended h =>
    have hdigits := digits_eq_nil h
    constructor <;> simp [h, hdigits]
  | missing h hdigits => constructor <;> simp [h, hdigits]
  | read n hdigits hvalue =>
    have hsome : t.unspaced ≠ [] := fun h => hdigits (digits_eq_nil h)
    have hrange := inRange_of_toInt hvalue
    constructor <;> simp [hdigits, hsome, hrange, hvalue]
  | overflow taken left hparts hdigits hrange htaken hleft =>
    have hsome : t.unspaced ≠ [] := fun h => hdigits (digits_eq_nil h)
    constructor <;> simp [hdigits, hsome, hrange]

namespace Token

/-- Where a value out of range stops the reading of its digits. -/
theorem Course.exists_left {t : Token} {result : Except Violation Int64} {rest : List Cell}
    (h : t.Course (result, rest)) (hdigits : t.digits ≠ []) (hrange : ¬t.InRange) :
    ∃ taken left, t.digits = taken ++ left ∧ Numeral.Collects taken ∧
      (∀ b more, left = b :: more → ¬Numeral.Collects (taken ++ [b])) ∧
      result = .error (.invalidInteger "integer out of range") ∧
      rest = (left ++ t.behind).map .byte := by
  cases h with
  | ended h => exact absurd (digits_eq_nil h) hdigits
  | missing _ hnone => exact absurd hnone hdigits
  | read n _ hvalue => exact absurd (inRange_of_toInt hvalue) hrange
  | overflow taken left hparts _ _ htaken hleft =>
    exact ⟨taken, left, hparts, htaken, hleft, rfl, rfl⟩

/-- All digits of a value out of range are collected if only a minus would bring it into range. -/
theorem left_eq_nil_iff {t : Token} {taken left : List UInt8} (hparts : t.digits = taken ++ left)
    (hrange : ¬t.InRange) (htaken : Numeral.Collects taken)
    (hleft : ∀ b more, left = b :: more → ¬Numeral.Collects (taken ++ [b])) :
    left = [] ↔ t.value = Int64.maxValue.toInt + 1 := by
  constructor
  · intro hnil
    rw [hnil, List.append_nil] at hparts
    by_cases hvalue : t.value = Int64.maxValue.toInt + 1
    · exact hvalue
    · exact absurd (inRange_of_collects (hparts ▸ htaken) hvalue) hrange
  · intro hvalue
    have hcollects : Numeral.Collects t.digits := by
      have hends : Int64.minValue.toInt = -Int64.maxValue.toInt - 1 := by decide
      have hpos : 0 ≤ Int64.maxValue.toInt := by decide
      unfold Numeral.Collects
      by_cases hminus : t.sign = [Ascii.minus]
      · rw [value_of_minus hminus] at hvalue
        omega
      · rw [value_of_not_minus hminus] at hvalue
        omega
    cases hcase : left with
    | nil => rfl
    | cons b more =>
      rw [hparts, hcase, List.append_cons] at hcollects
      exact absurd hcollects.of_append (hleft b more hcase)

/-- Digits that stay unread, with what is behind them, are digits with what is behind them. -/
theorem Proper.of_digits_eq {t : Token} (hproper : t.Proper) {taken left : List UInt8}
    (hparts : t.digits = taken ++ left) : Proper ⟨[], [], left, t.behind⟩ where
  digits_all := by
    intro b hb
    exact hproper.digits_all b (hparts ▸ List.mem_append_right taken hb)
  behind_head := hproper.behind_head

/-- The parts of a text that begins with a digit. -/
theorem ofBytes_digits {digits behind : List UInt8} (hdigits : digits ≠ [])
    (hproper : Proper ⟨[], [], digits, behind⟩) :
    ofBytes (digits ++ behind) = ⟨[], [], digits, behind⟩ := by
  have hnone : behind.takeWhile Ascii.isDigit = [] ∧ behind.dropWhile Ascii.isDigit = behind := by
    cases behind with
    | nil => exact ⟨rfl, rfl⟩
    | cons b rest =>
      have hb : ¬Ascii.isDigit b = true := by
        rw [hproper.behind_head b rest rfl]
        decide
      exact ⟨List.takeWhile_cons_of_neg hb, List.dropWhile_cons_of_neg hb⟩
  obtain ⟨d, more, rfl⟩ := List.exists_cons_of_ne_nil hdigits
  obtain ⟨hspace, hsign⟩ := Ascii.isDigit_apart (hproper.digits_all d List.mem_cons_self)
  have htake : (d :: more ++ behind).takeWhile Ascii.isDigit =
      d :: more ++ behind.takeWhile Ascii.isDigit :=
    List.takeWhile_append_of_pos hproper.digits_all
  have hdrop : (d :: more ++ behind).dropWhile Ascii.isDigit = behind.dropWhile Ascii.isDigit :=
    List.dropWhile_append_of_pos hproper.digits_all
  simp only [hnone, List.append_nil, List.cons_append] at htake hdrop
  simp [ofBytes, hspace, hsign, htake, hdrop]

end Token

namespace Source

theorem readInt_course {source : Source} {bytes : List UInt8}
    (h : source.stream = bytes.map .byte) :
    (Token.ofBytes bytes).Course (source.readInt.result, source.readInt.rest.stream) := by
  have hread := readInt_stream source
  rw [seen, h] at hread
  rw [hread]
  exact Stream.int_course bytes

/-- Reading an integer from a text, in whatever segments it comes. -/
theorem readInt_ends {source : Source} {bytes : List UInt8} (h : source.stream = bytes.map .byte) :
    (Token.ofBytes bytes).spaces ++ (Token.ofBytes bytes).unspaced = bytes ∧
      (Token.ofBytes bytes).Ends source.readInt.result source.readInt.rest.stream :=
  ⟨Token.parts_ofBytes bytes, (readInt_course h).ends⟩

/-- The least integer, in three segments with an interruption, and what is behind it. -/
theorem readInt_ends_cut :
    (readInt [.data "\t -9223372036".toUTF8.toList, .interrupted, .data "854775808,".toUTF8.toList,
        .data [55]]).result = .ok Int64.minValue ∧
      (readInt [.data "\t -9223372036".toUTF8.toList, .interrupted,
        .data "854775808,".toUTF8.toList, .data [55]]).rest.stream = [.byte 44, .byte 55] := by
  have hstream : stream [.data "\t -9223372036".toUTF8.toList, .interrupted,
      .data "854775808,".toUTF8.toList, .data [55]] =
        "\t -9223372036854775808,7".toUTF8.toList.map .byte := by
    decide +kernel
  obtain ⟨-, hends⟩ := readInt_ends hstream
  obtain ⟨n, hn⟩ := hends.ok_iff.2 ⟨by decide +kernel, by decide +kernel⟩
  obtain ⟨hvalue, hrest⟩ := hends.of_ok n hn
  have hleast : n = Int64.minValue := Int64.toInt_inj.1 (hvalue.trans (by decide +kernel))
  exact ⟨hleast ▸ hn, hrest.trans (by decide +kernel)⟩

/-- Reading an integer out of range stops at the first byte that is not a digit, and that byte
stays unread. -/
def StopsBehindDigits (source : Source) : Prop :=
  ∀ bytes, source.stream = bytes.map .byte → (Token.ofBytes bytes).digits ≠ [] →
    ¬(Token.ofBytes bytes).InRange →
      source.readInt.result = .error (.invalidInteger "integer out of range") ∧
        source.readInt.rest.stream = (Token.ofBytes bytes).behind.map .byte

/-- Reading an integer out of range takes the digits up to the first whose value cannot be
collected.  This digit and those behind it stay unread, and the next read takes them for an integer
without a sign.  Only if the greatest integer and one is written without a minus are all digits
taken. -/
theorem readInt_overflow {source : Source} {bytes : List UInt8}
    (h : source.stream = bytes.map .byte) (hdigits : (Token.ofBytes bytes).digits ≠ [])
    (hrange : ¬(Token.ofBytes bytes).InRange) :
    ∃ taken left, (Token.ofBytes bytes).digits = taken ++ left ∧ Numeral.Collects taken ∧
      (∀ b more, left = b :: more → ¬Numeral.Collects (taken ++ [b])) ∧
      source.readInt.result = .error (.invalidInteger "integer out of range") ∧
      source.readInt.rest.stream = (left ++ (Token.ofBytes bytes).behind).map .byte ∧
      (left = [] ↔ (Token.ofBytes bytes).value = Int64.maxValue.toInt + 1) ∧
      (left ≠ [] → Token.Ends ⟨[], [], left, (Token.ofBytes bytes).behind⟩
        source.readInt.rest.readInt.result source.readInt.rest.readInt.rest.stream) := by
  have hproper := Token.proper_ofBytes bytes
  obtain ⟨taken, left, hparts, htaken, hleft, hresult, hrest⟩ :=
    (readInt_course h).exists_left hdigits hrange
  refine ⟨taken, left, hparts, htaken, hleft, hresult, hrest,
    Token.left_eq_nil_iff hparts hrange htaken hleft, fun hsome => ?_⟩
  have hnext := (readInt_course hrest).ends
  rw [Token.ofBytes_digits hsome (hproper.of_digits_eq hparts)] at hnext
  exact hnext

/-- Of twenty digits the last takes the value out of range, and the next read gives zero. -/
theorem readInt_overflow_cut :
    (readInt [.data "+9223372036".toUTF8.toList, .interrupted,
        .data "8547758080 5".toUTF8.toList]).result =
        .error (.invalidInteger "integer out of range") ∧
      (readInt [.data "+9223372036".toUTF8.toList, .interrupted,
        .data "8547758080 5".toUTF8.toList]).rest.readInt.result = .ok 0 := by
  have hstream : stream [.data "+9223372036".toUTF8.toList, .interrupted,
      .data "8547758080 5".toUTF8.toList] =
        "+92233720368547758080 5".toUTF8.toList.map .byte := by
    decide +kernel
  obtain ⟨taken, left, -, -, -, hresult, hrest, -, hnext⟩ :=
    readInt_overflow hstream (by decide +kernel) (by decide +kernel)
  have hleft : left = [Ascii.zero] := by
    have hunread : (readInt [.data "+9223372036".toUTF8.toList, .interrupted,
        .data "8547758080 5".toUTF8.toList]).rest.stream =
        ([Ascii.zero] ++ (Token.ofBytes "+92233720368547758080 5".toUTF8.toList).behind).map
          .byte := by
      decide +kernel
    rw [hunread] at hrest
    have hbytes := (List.map_inj_right fun _ _ => Cell.byte.inj).1 hrest
    exact (List.append_cancel_right hbytes).symm
  rw [hleft] at hnext
  obtain ⟨n, hn⟩ := (hnext (List.cons_ne_nil _ _)).ok_iff.2 ⟨List.cons_ne_nil _ _, by decide +kernel⟩
  have hzero : n = 0 :=
    Int64.toInt_inj.1 (((hnext (List.cons_ne_nil _ _)).of_ok n hn).1.trans (by decide +kernel))
  exact ⟨hresult, hzero ▸ hn⟩

theorem not_stopsBehindDigits :
    ¬StopsBehindDigits [.data "92233720368547758080 ".toUTF8.toList] := by
  intro h
  have hrest := (h "92233720368547758080 ".toUTF8.toList (by decide +kernel) (by decide +kernel)
    (by decide +kernel)).2
  exact absurd hrest (by decide +kernel)

end Source

end ProgramSupport
