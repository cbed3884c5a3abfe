/-!
# UTF-8 text inside byte strings

Bytes are read one at a time.  A sequence of two to four bytes begins with a lead byte, which
fixes how many bytes follow and in which range the first of them lies; this range shuts out
overlong forms, surrogates and numbers behind the last code point.  This file provides

* `Sequence.start?` — what a lead byte promises;
* `Utf8.decode` — the characters of a byte string in order, with one `none` for every maximal
  invalid part: a sequence that breaks off, or a byte that can start none;
* `Utf8.text?` — the text of a byte string that is valid throughout;
* `Utf8.lossyText` — the text of any byte string, with `U+FFFD` for every invalid part;
* `Utf8.encode` — the bytes of a text.

After an invalid part reading goes on with the byte that broke it.
-/

namespace ProgramSupport.Utf8

/-- A sequence that has begun: the value of its bits so far, how many bytes are missing, and
the range of the next one. -/
structure Sequence where
  code : Nat
  missing : Nat
  lowest : UInt8
  highest : UInt8
deriving Repr, DecidableEq

/-- The sequence that a lead byte begins. -/
def Sequence.start? (b : UInt8) : Option Sequence :=
  if 0xC2 ≤ b ∧ b ≤ 0xDF then some ⟨b.toNat - 0xC0, 1, 0x80, 0xBF⟩
  else if b = 0xE0 then some ⟨0, 2, 0xA0, 0xBF⟩
  else if b = 0xED then some ⟨0xD, 2, 0x80, 0x9F⟩
  else if 0xE1 ≤ b ∧ b ≤ 0xEF then some ⟨b.toNat - 0xE0, 2, 0x80, 0xBF⟩
  else if b = 0xF0 then some ⟨0, 3, 0x90, 0xBF⟩
  else if 0xF1 ≤ b ∧ b ≤ 0xF3 then some ⟨b.toNat - 0xF0, 3, 0x80, 0xBF⟩
  else if b = 0xF4 then some ⟨4, 3, 0x80, 0x8F⟩
  else none

/-- The sequence with one more byte, which may be any continuation byte from then on. -/
def Sequence.next (s : Sequence) (b : UInt8) : Sequence :=
  ⟨s.code * 64 + (b.toNat - 0x80), s.missing - 1, 0x80, 0xBF⟩

/-! ### Decoding -/

/-- Read a byte where a sequence may begin: what is decided by it, and the sequence it opens. -/
def begin (b : UInt8) : List (Option Char) × Option Sequence :=
  if b < 0x80 then ([some (Char.ofNat b.toNat)], none)
  else match Sequence.start? b with
    | some s => ([], some s)
    | none => ([none], none)

/-- Read a byte after an open sequence, if there is one.  A byte outside the sequence's range
breaks it and is read as a beginning. -/
def step : Option Sequence → UInt8 → List (Option Char) × Option Sequence
  | none, b => begin b
  | some s, b =>
    if s.lowest ≤ b ∧ b ≤ s.highest then
      let s := s.next b
      if s.missing = 0 then ([some (Char.ofNat s.code)], none) else ([], some s)
    else (none :: (begin b).1, (begin b).2)

/-- The characters of the bytes after an open sequence; the end breaks it too. -/
def decodeFrom : Option Sequence → List UInt8 → List (Option Char)
  | none, [] => []
  | some _, [] => [none]
  | s, b :: bytes => (step s b).1 ++ decodeFrom (step s b).2 bytes

/-- The characters of a byte string, with `none` for every maximal invalid part. -/
def decode (bytes : List UInt8) : List (Option Char) := decodeFrom none bytes

/-- The text of a byte string, if it is valid throughout. -/
def text? (bytes : List UInt8) : Option String :=
  ((decode bytes).mapM id).map String.ofList

/-- The text of a byte string, with `U+FFFD` for every maximal invalid part. -/
def lossyText (bytes : List UInt8) : String :=
  String.ofList ((decode bytes).map (·.getD '\uFFFD'))

/-- The bytes of a text. -/
def encode (text : String) : List UInt8 := text.toList.flatMap String.utf8EncodeChar

example : decode [0x61, 0xE2, 0x82, 0xAC, 0xE2, 0x82, 0x62] =
    [some 'a', some '€', none, some 'b'] := by decide +kernel

end ProgramSupport.Utf8
