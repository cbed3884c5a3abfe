import ProgramSupport.ByteString
import ProgramSupport.Proofs.Text.Encoding

/-!
# The text in a byte string

Bytes are decoded one at a time, and what is no text is replaced.  This file provides

* `Utf8.Begins` and `Utf8.Invalid` — bytes that a character can begin with, and maximal invalid
  parts, told by the encodings of characters and without decoding;
* `Utf8.Decodes` — bytes as characters and maximal invalid parts, one behind the other;
* `Utf8.Opened` — what an open sequence knows of the bytes read so far;
* `Utf8.decodes_decode` and `Utf8.Decodes.decode_eq` — every byte string is decoded in this way, and
  there is no other;
* `Utf8.decode_encode_append` and `Utf8.Spells.decode_append` — what becomes of text in front of any
  bytes, and of bytes in the pattern that are not well formed;
* `ByteString.display_decided` — this together, for the text that is displayed.
-/

namespace ProgramSupport

namespace Utf8

open Sequence

variable {a b : UInt8} {s : Sequence} {bytes rest : List UInt8}

/-! ### Steps -/

theorem decodeFrom_ascii (h : b.toNat ≤ 0x7F) (bytes : List UInt8) :
    decodeFrom none (b :: bytes) = some (Char.ofNat b.toNat) :: decodeFrom none bytes := by
  have hlt : b < 0x80 := UInt8.lt_iff_toNat_lt.2 (Nat.lt_succ_of_le h)
  rw [decodeFrom, step, begin, if_pos hlt]
  rfl

theorem decodeFrom_lead (h : 0x80 ≤ a.toNat) (bytes : List UInt8) :
    decodeFrom none (a :: bytes) =
      match start? a with
      | some s => decodeFrom (some s) bytes
      | none => none :: decodeFrom none bytes := by
  have hle : ¬a < 0x80 := UInt8.not_lt.2 (UInt8.le_iff_toNat_le.2 h)
  rw [decodeFrom, step, begin, if_neg hle]
  cases start? a <;> rfl

theorem decodeFrom_start (h : start? a = some s) (bytes : List UInt8) :
    decodeFrom none (a :: bytes) = decodeFrom (some s) bytes := by
  have hlead := exists_start?_iff.1 ⟨s, h⟩
  rw [decodeFrom_lead (by omega), h]

theorem decodeFrom_unstarted (h : 0x80 ≤ a.toNat) (hstart : start? a = none)
    (bytes : List UInt8) : decodeFrom none (a :: bytes) = none :: decodeFrom none bytes := by
  rw [decodeFrom_lead h, hstart]

theorem decodeFrom_last (hb : s.Takes b) (hnone : (s.next b).missing = 0) (bytes : List UInt8) :
    decodeFrom (some s) (b :: bytes) =
      some (Char.ofNat (s.next b).code) :: decodeFrom none bytes := by
  rw [decodeFrom, step, if_pos ⟨hb.1, hb.2⟩]
  simp only [if_pos hnone]
  rfl

theorem decodeFrom_more (hb : s.Takes b) (hsome : (s.next b).missing ≠ 0) (bytes : List UInt8) :
    decodeFrom (some s) (b :: bytes) = decodeFrom (some (s.next b)) bytes := by
  rw [decodeFrom, step, if_pos ⟨hb.1, hb.2⟩]
  simp only [if_neg hsome]
  rfl

/-- A byte that a sequence does not take is read again. -/
theorem decodeFrom_broken (hb : ¬s.Takes b) (bytes : List UInt8) :
    decodeFrom (some s) (b :: bytes) = none :: decodeFrom none (b :: bytes) := by
  have hrange : ¬(s.lowest ≤ b ∧ b ≤ s.highest) := hb
  rw [decodeFrom, step, if_neg hrange]
  rfl

theorem decodeFrom_completes {n : Nat} (h : s.Completes bytes n) (rest : List UInt8) :
    decodeFrom (some s) (bytes ++ rest) = some (Char.ofNat n) :: decodeFrom none rest := by
  induction h with
  | last hb hnone => exact decodeFrom_last hb hnone rest
  | more hb hsome _ ih => exact (decodeFrom_more hb hsome _).trans ih

/-! ### Characters and invalid parts -/

/-- Some character is encoded by these bytes and maybe more. -/
def Begins (bytes : List UInt8) : Prop := ∃ c more, String.utf8EncodeChar c = bytes ++ more

/-- The bytes are a maximal invalid part in front of others. -/
inductive Invalid : List UInt8 → List UInt8 → Prop where
  /-- The encoding of a character breaks off, and the next byte goes on with none. -/
  | truncated {part rest more : List UInt8} {c : Char} (hpart : part ≠ []) (hmore : more ≠ [])
      (hencode : String.utf8EncodeChar c = part ++ more)
      (hmax : ∀ b bytes, rest = b :: bytes → ¬Begins (part ++ [b])) : Invalid part rest
  /-- No character begins with the byte. -/
  | unstarted {b : UInt8} {rest : List UInt8} (h : ¬Begins [b]) : Invalid [b] rest

/-- The bytes are encoded characters and maximal invalid parts in this order. -/
inductive Decodes : List UInt8 → List (Option Char) → Prop where
  | nil : Decodes [] []
  | char {c : Char} {rest : List UInt8} {parts : List (Option Char)} (hrest : Decodes rest parts) :
      Decodes (String.utf8EncodeChar c ++ rest) (some c :: parts)
  | invalid {part rest : List UInt8} {parts : List (Option Char)} (hpart : Invalid part rest)
      (hrest : Decodes rest parts) : Decodes (part ++ rest) (none :: parts)

/-- What a byte that may begin a character makes of it. -/
theorem encode_cons_iff {c : Char} {more : List UInt8} :
    String.utf8EncodeChar c = a :: more ↔
      (a.toNat ≤ 0x7F ∧ more = [] ∧ c.toNat = a.toNat) ∨
        ∃ s, start? a = some s ∧ s.Completes more c.toNat := by
  rw [encode_eq_iff]
  constructor
  · intro h
    by_cases hmore : more = []
    · subst hmore
      cases h.1 with
      | one ha hn => exact .inl ⟨ha, rfl, hn⟩
    · exact .inr (completes_of_wellFormed hmore h)
  · rintro (⟨ha, rfl, hn⟩ | ⟨s, hstart, h⟩)
    · exact ⟨.one ha hn, c.valid, Nat.zero_le _⟩
    · exact wellFormed_of_completes hstart h

/-- The open sequence is what the bytes read so far have begun: what completes it completes them to
the encoding of a character. -/
structure Opened (part : List UInt8) (s : Sequence) : Prop where
  part_ne_nil : part ≠ []
  lowest_le : s.lowest ≤ s.highest
  completes_iff : ∀ more n, s.Completes more n ↔
    more ≠ [] ∧ ∃ c : Char, c.toNat = n ∧ String.utf8EncodeChar c = part ++ more

theorem opened_start (h : start? a = some s) : Opened [a] s where
  part_ne_nil := List.cons_ne_nil a []
  lowest_le := by
    obtain ⟨_, _, _, hs⟩ := follows_of_start? h
    exact hs.lowest_le
  completes_iff more n := by
    constructor
    · intro hmore
      have hwell := wellFormed_of_completes h hmore
      refine ⟨hmore.ne_nil, Char.ofNatAux n hwell.2.1, rfl, ?_⟩
      exact WellFormed.encode_eq hwell
    · rintro ⟨hmore, c, rfl, hencode⟩
      obtain ⟨-, hnone, -⟩ | ⟨_, hstart, hcompletes⟩ := encode_cons_iff.1 hencode
      · exact absurd hnone hmore
      · obtain rfl := Option.some.inj (h.symm.trans hstart)
        exact hcompletes

namespace Opened

variable {part : List UInt8}

theorem next (h : Opened part s) (hb : s.Takes b) (hsome : (s.next b).missing ≠ 0) :
    Opened (part ++ [b]) (s.next b) where
  part_ne_nil := by simp
  lowest_le := s.lowest_next_le b
  completes_iff more n := by
    have hcons : (s.next b).Completes more n ↔ more ≠ [] ∧ s.Completes (b :: more) n := by
      constructor
      · intro hmore
        exact ⟨hmore.ne_nil, .more hb hsome hmore⟩
      · rintro ⟨hne, hmore⟩
        cases hmore with
        | last _ _ => exact absurd rfl hne
        | more _ _ hmore => exact hmore
    rw [hcons, h.completes_iff, List.append_assoc]
    exact and_congr_right fun _ => and_iff_right (List.cons_ne_nil b more)

/-- The part breaks off the encoding of a character. -/
theorem exists_more (h : Opened part s) :
    ∃ (c : Char) (more : List UInt8), more ≠ [] ∧ String.utf8EncodeChar c = part ++ more := by
  obtain ⟨more, n, hmore⟩ := s.exists_completes h.lowest_le
  obtain ⟨hne, c, -, hencode⟩ := (h.completes_iff more n).1 hmore
  exact ⟨c, more, hne, hencode⟩

/-- Some character goes on with a byte just if the sequence takes it. -/
theorem begins_iff (h : Opened part s) : Begins (part ++ [b]) ↔ s.Takes b := by
  constructor
  · rintro ⟨c, more, hencode⟩
    rw [List.append_assoc] at hencode
    exact ((h.completes_iff _ _).2 ⟨List.cons_ne_nil b more, c, rfl, hencode⟩).takes
  · intro hb
    by_cases hnone : (s.next b).missing = 0
    · obtain ⟨-, c, -, hencode⟩ := (h.completes_iff _ _).1 (.last hb hnone)
      exact ⟨c, [], by rw [hencode, List.append_nil]⟩
    · obtain ⟨c, more, -, hencode⟩ := (h.next hb hnone).exists_more
      exact ⟨c, more, hencode⟩

/-- The end and every byte that the sequence does not take make the part a maximal invalid one. -/
theorem invalid (h : Opened part s) (hstop : ∀ b bytes, rest = b :: bytes → ¬s.Takes b) :
    Invalid part rest := by
  obtain ⟨c, more, hne, hencode⟩ := h.exists_more
  exact .truncated h.part_ne_nil hne hencode fun b bytes hrest hbegins =>
    hstop b bytes hrest (h.begins_iff.1 hbegins)

end Opened

/-! ### Decoding reads characters and invalid parts -/

/-- A byte of ASCII is a character. -/
theorem exists_ascii (h : a.toNat ≤ 0x7F) :
    ∃ c : Char, c.toNat = a.toNat ∧ String.utf8EncodeChar c = [a] :=
  ⟨Char.ofNatAux a.toNat (.inl (Nat.lt_of_le_of_lt h (by decide))), rfl,
    encode_cons_iff.2 (.inl ⟨h, rfl, rfl⟩)⟩

theorem begins_singleton_iff : Begins [a] ↔ a.toNat ≤ 0x7F ∨ ∃ s, start? a = some s := by
  constructor
  · rintro ⟨c, more, hencode⟩
    obtain ⟨ha, -, -⟩ | ⟨s, hstart, -⟩ := encode_cons_iff.1 hencode
    · exact .inl ha
    · exact .inr ⟨s, hstart⟩
  · rintro (ha | ⟨s, hstart⟩)
    · obtain ⟨c, -, hencode⟩ := exists_ascii ha
      exact ⟨c, [], hencode⟩
    · obtain ⟨c, more, -, hencode⟩ := (opened_start hstart).exists_more
      exact ⟨c, more, hencode⟩

section

variable (hnone : Decodes bytes (decodeFrom none bytes))
  (hsome : ∀ part s, Opened part s → Decodes (part ++ bytes) (decodeFrom (some s) bytes))

include hnone hsome

/-- If the rest is decoded rightly, so is a byte that stands at the beginning in front of it. -/
theorem decodes_begin (b : UInt8) : Decodes (b :: bytes) (decodeFrom none (b :: bytes)) := by
  by_cases hascii : b.toNat ≤ 0x7F
  · obtain ⟨c, hcode, hencode⟩ := exists_ascii hascii
    have hchar := Decodes.char (c := c) hnone
    rw [hencode] at hchar
    rw [decodeFrom_ascii hascii, ← hcode, Char.ofNat_toNat]
    exact hchar
  · cases hstart : start? b with
    | some s =>
      rw [decodeFrom_start hstart]
      exact hsome [b] s (opened_start hstart)
    | none =>
      have hbegins : ¬Begins [b] := by
        rw [begins_singleton_iff, hstart]
        rintro (hle | ⟨s, hs⟩)
        · exact hascii hle
        · cases hs
      rw [decodeFrom_unstarted (Nat.lt_of_not_le hascii) hstart]
      exact .invalid (.unstarted hbegins) hnone

/-- If the rest is decoded rightly, so is a byte that stands behind an open sequence in front of it:
the sequence ends with a character, goes on or breaks. -/
theorem decodes_open {part : List UInt8} (hpart : Opened part s) (b : UInt8) :
    Decodes (part ++ b :: bytes) (decodeFrom (some s) (b :: bytes)) := by
  by_cases hb : s.Takes b
  · by_cases hlast : (s.next b).missing = 0
    · obtain ⟨-, c, hcode, hencode⟩ := (hpart.completes_iff _ _).1 (.last hb hlast)
      rw [decodeFrom_last hb hlast, ← hcode, Char.ofNat_toNat, List.append_cons, ← hencode]
      exact .char hnone
    · rw [decodeFrom_more hb hlast, List.append_cons]
      exact hsome _ _ (hpart.next hb hlast)
  · rw [decodeFrom_broken hb]
    refine .invalid (hpart.invalid fun c rest hrest => ?_) (decodes_begin hnone hsome b)
    obtain ⟨rfl, -⟩ := List.cons.inj hrest
    exact hb

end

/-- From the beginning and from any open sequence on, bytes are decoded as characters and invalid
parts, of which the open sequence begins the first. -/
theorem decodes_decodeFrom (bytes : List UInt8) :
    Decodes bytes (decodeFrom none bytes) ∧
      ∀ part s, Opened part s → Decodes (part ++ bytes) (decodeFrom (some s) bytes) := by
  induction bytes with
  | nil => exact ⟨.nil, fun part s hpart => .invalid (hpart.invalid nofun) .nil⟩
  | cons b bytes ih =>
    obtain ⟨hnone, hsome⟩ := ih
    exact ⟨decodes_begin hnone hsome b, fun part s hpart => decodes_open hnone hsome hpart b⟩

/-- Every byte string is characters and maximal invalid parts, as it is decoded. -/
theorem decodes_decode (bytes : List UInt8) : Decodes bytes (decode bytes) :=
  (decodes_decodeFrom bytes).1

/-! ### There is no other way to read them -/

theorem decode_encodeChar_append (c : Char) (rest : List UInt8) :
    decode (String.utf8EncodeChar c ++ rest) = some c :: decode rest := by
  obtain ⟨a, more, hencode⟩ := List.exists_cons_of_ne_nil (String.utf8EncodeChar_ne_nil (c := c))
  rw [hencode]
  obtain ⟨ha, rfl, hcode⟩ | ⟨s, hstart, hmore⟩ := encode_cons_iff.1 hencode
  · refine (decodeFrom_ascii ha rest).trans ?_
    rw [← hcode, Char.ofNat_toNat]
    rfl
  · refine (decodeFrom_start hstart _).trans ((decodeFrom_completes hmore rest).trans ?_)
    rw [Char.ofNat_toNat]
    rfl

/-- Where a sequence goes on with a part of what completes it, and then with nothing that any
character goes on with, it breaks. -/
theorem Opened.decodeFrom_truncated {read part more : List UInt8} {c : Char} (h : Opened read s)
    (hmore : more ≠ []) (hencode : String.utf8EncodeChar c = read ++ (part ++ more))
    (hmax : ∀ b bytes, rest = b :: bytes → ¬Begins (read ++ part ++ [b])) :
    decodeFrom (some s) (part ++ rest) = none :: decodeFrom none rest := by
  induction part generalizing read s with
  | nil =>
    cases rest with
    | nil => rfl
    | cons b bytes =>
      refine decodeFrom_broken (fun hb => hmax b bytes rfl ?_) bytes
      rw [List.append_nil]
      exact h.begins_iff.2 hb
  | cons b part ih =>
    have hne : part ++ more ≠ [] := List.append_ne_nil_of_right_ne_nil part hmore
    have hcompletes := (h.completes_iff _ _).2 ⟨List.cons_ne_nil b (part ++ more), c, rfl, hencode⟩
    have hsome := hcompletes.missing_ne_zero hne
    refine (decodeFrom_more hcompletes.takes hsome _).trans
      (ih (h.next hcompletes.takes hsome) ?_ fun x bytes hrest => ?_)
    · rw [hencode, List.append_assoc]
      rfl
    · have hstop := hmax x bytes hrest
      rw [List.append_cons read b part] at hstop
      exact hstop

theorem Invalid.decode_append {part : List UInt8} (h : Invalid part rest) :
    decode (part ++ rest) = none :: decode rest := by
  cases h with
  | @truncated _ _ more c hpart hmore hencode hmax =>
    obtain ⟨a, part, rfl⟩ := List.exists_cons_of_ne_nil hpart
    obtain ⟨-, hnone, -⟩ | ⟨s, hstart, -⟩ := encode_cons_iff.1 hencode
    · exact absurd hnone (List.append_ne_nil_of_right_ne_nil part hmore)
    · exact (decodeFrom_start hstart _).trans
        ((opened_start hstart).decodeFrom_truncated hmore hencode hmax)
  | @unstarted b _ hnone =>
    rw [begins_singleton_iff] at hnone
    have hstart : start? b = none := by
      cases hstart : start? b with
      | none => rfl
      | some s => exact absurd (.inr ⟨s, hstart⟩) hnone
    exact decodeFrom_unstarted (Nat.lt_of_not_le fun hle => hnone (.inl hle)) hstart rest

/-- What characters and maximal invalid parts a byte string has is how it is decoded. -/
theorem Decodes.decode_eq {parts : List (Option Char)} (h : Decodes bytes parts) :
    decode bytes = parts := by
  induction h with
  | nil => rfl
  | char _ ih => rw [decode_encodeChar_append, ih]
  | invalid hpart _ ih => rw [hpart.decode_append, ih]

/-! ### Text among bytes -/

/-- What stands behind text is decoded as if it stood alone. -/
theorem decode_encode_append (text : String) (rest : List UInt8) :
    decode (encode text ++ rest) = text.toList.map some ++ decode rest := by
  unfold encode
  induction text.toList with
  | nil => rfl
  | cons c text ih =>
    rw [List.flatMap_cons, List.append_assoc, decode_encodeChar_append, ih]
    rfl

theorem isValidUTF8_iff : bytes.toByteArray.IsValidUTF8 ↔ ∃ text, bytes = encode text := by
  constructor
  · rintro ⟨chars, hchars⟩
    refine ⟨String.ofList chars, List.toByteArray_inj.1 (hchars.trans ?_)⟩
    rw [encode, String.toList_ofList]
    rfl
  · rintro ⟨text, rfl⟩
    exact ⟨text.toList, rfl⟩

theorem toByteArray_encode (text : String) : (encode text).toByteArray = text.toByteArray :=
  String.utf8Encode_toList

/-- The text of the parts of a byte string, with a replacement for each invalid one. -/
theorem lossyText_encode_append (text : String) (rest : List UInt8) :
    lossyText (encode text ++ rest) = text ++ lossyText rest := by
  have hchars : (text.toList.map some).map (·.getD '\uFFFD') = text.toList := by
    rw [List.map_map]
    exact List.map_id _
  rw [lossyText, decode_encode_append, List.map_append, hchars, String.ofList_append,
    String.ofList_toList]
  rfl

/-! ### Malformed sequences -/

/-- A byte that goes on with no sequence ends every invalid part. -/
theorem Invalid.append_of_lead {part : List UInt8} (h : Invalid part rest)
    (ha : ¬IsContinuation a) (behind : List UInt8) : Invalid part (rest ++ a :: behind) := by
  cases h with
  | truncated hpart hmore hencode hmax =>
    refine .truncated hpart hmore hencode fun b bytes hrest => ?_
    cases rest with
    | nil =>
      obtain ⟨rfl, -⟩ := List.cons.inj hrest
      rintro ⟨c, more, hbegins⟩
      obtain ⟨x, part, rfl⟩ := List.exists_cons_of_ne_nil hpart
      refine ha (((encode_eq_iff.1 hbegins).1.continuation) a ?_)
      simp
    | cons x rest =>
      obtain ⟨rfl, -⟩ := List.cons.inj hrest
      exact hmax x rest rfl
  | unstarted hnone => exact .unstarted hnone

/-- In front of a byte that goes on with no sequence, bytes are decoded as if they stood alone. -/
theorem Decodes.append_of_lead {parts : List (Option Char)} (h : Decodes bytes parts)
    (ha : ¬IsContinuation a) (behind : List UInt8) :
    Decodes (bytes ++ a :: behind) (parts ++ decode (a :: behind)) := by
  induction h with
  | nil => exact decodes_decode _
  | char _ ih =>
    rw [List.append_assoc]
    exact .char ih
  | invalid hpart _ ih =>
    rw [List.append_assoc]
    exact .invalid (hpart.append_of_lead ha behind) ih

/-- Continuation bytes without a sequence are invalid one by one. -/
theorem decode_continuation_append (h : ∀ b ∈ bytes, IsContinuation b) (rest : List UInt8) :
    decode (bytes ++ rest) = List.replicate bytes.length none ++ decode rest := by
  induction bytes with
  | nil => rfl
  | cons b bytes ih =>
    obtain ⟨hb, hbytes⟩ := List.forall_mem_cons.1 h
    have hstart : start? b = none := by
      cases hstart : start? b with
      | none => rfl
      | some s =>
        have hlead := exists_start?_iff.1 ⟨s, hstart⟩
        have hlast := hb.2
        omega
    refine (decodeFrom_unstarted hb.1 hstart (bytes ++ rest)).trans (congrArg (none :: ·) ?_)
    exact ih hbytes

/-- Bytes in the pattern that are not well formed are invalid one by one, wherever they stand. -/
theorem Spells.decode_append {n : Nat} (h : Spells bytes n) (hbad : ¬WellFormed bytes n)
    (before behind : List UInt8) :
    decode (before ++ (bytes ++ behind)) =
      decode before ++ (List.replicate bytes.length none ++ decode behind) := by
  obtain ⟨a, b, rest, rfl, ha, hrest, hbreak⟩ := h.breaks hbad
  have hlead : ¬IsContinuation a := fun hcont => by
    have hlast := hcont.2
    omega
  have hfirst : decode (a :: (b :: rest ++ behind)) = none :: decode (b :: rest ++ behind) := by
    cases hstart : start? a with
    | none => exact decodeFrom_unstarted (by omega) hstart _
    | some s => exact (decodeFrom_start hstart _).trans (decodeFrom_broken (hbreak s hstart) _)
  refine ((decodes_decode before).append_of_lead hlead (b :: rest ++ behind)).decode_eq.trans ?_
  rw [hfirst, decode_continuation_append hrest]
  rfl

end Utf8

/-! ### The text that is displayed -/

namespace ByteString

open Utf8

theorem display_ofText_concat (text : String) (q : ByteString) :
    ((ofText text).concat q).display = text ++ q.display := lossyText_encode_append text q.bytes

theorem display_ofText (text : String) : (ofText text).display = text := by
  have hempty := lossyText_encode_append text []
  rw [List.append_nil] at hempty
  exact hempty.trans (String.append_empty)

/-- Bytes that spell no character, or one at greater length than it needs, are displayed as so many
replacements. -/
theorem display_malformed {malformed : ByteString} {n : Nat} (h : Spells malformed.bytes n)
    (hbad : ¬WellFormed malformed.bytes n) (p q : ByteString) :
    ((p.concat malformed).concat q).display =
      p.display ++ String.ofList (List.replicate malformed.size '\uFFFD') ++ q.display := by
  show lossyText (p.bytes ++ malformed.bytes ++ q.bytes) = _
  rw [List.append_assoc, lossyText, h.decode_append hbad, List.map_append, List.map_append,
    List.map_replicate, String.ofList_append, String.ofList_append, ← String.append_assoc]
  rfl

/-- The displayed text of a byte string has its bytes just if these are UTF-8, so texts are
displayed as they are, and in front of any bytes too.  All else is displayed as the characters that
the bytes encode and one replacement for each maximal invalid part between them; there is one way
only to read bytes like this.  Surrogates, overlong forms and numbers behind the last code point
have a replacement for each byte, wherever they stand. -/
theorem display_decided (s : ByteString) :
    (s.display.toByteArray = s.bytes.toByteArray ↔ s.bytes.toByteArray.IsValidUTF8) ∧
      (∀ text, (ofText text).display = text) ∧
      (s.bytes.toByteArray.IsValidUTF8 → ∀ q, (s.concat q).display = s.display ++ q.display) ∧
      (∃ parts, (∀ others, Decodes s.bytes others ↔ others = parts) ∧
        s.display = String.ofList (parts.map (·.getD '\uFFFD'))) ∧
      ∀ (malformed : ByteString) (n : Nat), Spells malformed.bytes n →
        (0xD800 ≤ n ∧ n ≤ 0xDFFF) ∨ 0x10FFFF < n ∨ n < leastOfLength malformed.size →
        ∀ q, ((s.concat malformed).concat q).display =
          s.display ++ String.ofList (List.replicate malformed.size '\uFFFD') ++ q.display := by
  refine ⟨⟨fun h => ?_, fun h => ?_⟩, display_ofText, fun h q => ?_, ?_, ?_⟩
  · rw [← h]
    exact s.display.isValidUTF8
  · obtain ⟨text, htext⟩ := isValidUTF8_iff.1 h
    obtain rfl : s = ofText text := congrArg ByteString.mk htext
    rw [display_ofText]
    exact (toByteArray_encode text).symm
  · obtain ⟨text, htext⟩ := isValidUTF8_iff.1 h
    obtain rfl : s = ofText text := congrArg ByteString.mk htext
    rw [display_ofText, display_ofText_concat]
  · refine ⟨decode s.bytes, fun others => ⟨fun h => h.decode_eq.symm, ?_⟩, rfl⟩
    rintro rfl
    exact decodes_decode s.bytes
  · intro malformed n hspells hbad q
    refine display_malformed hspells (fun ⟨_, hvalid, hleast⟩ => ?_) s q
    have hsize : malformed.size = malformed.bytes.length := rfl
    rw [hsize] at hbad
    omega

/-- A surrogate, and the sign of the euro that breaks off before a letter. -/
example : (⟨[0x61, 0xED, 0xA0, 0x80, 0xE2, 0x82, 0x62]⟩ : ByteString).display =
    "a\uFFFD\uFFFD\uFFFD\uFFFDb" := by decide +kernel

end ByteString

end ProgramSupport
