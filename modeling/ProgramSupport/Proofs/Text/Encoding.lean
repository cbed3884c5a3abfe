import ProgramSupport.Text.Utf8

/-!
# Sequences of UTF-8

A character is encoded by one byte, or by a lead byte with continuation bytes behind it.  Open
sequences are followed from the lead byte on.  This file provides

* `Spells` — the bit pattern by which bytes spell a number, whether or not they should;
* `WellFormed` and `encode_eq_iff` — the bytes that spell a character and are no more than it needs,
  which are its encoding;
* `Sequence.Completes` — the bytes that bring an open sequence to its end;
* `Sequence.Follows` — what an open sequence leaves room for, and `follows_two`, `follows_three` and
  `follows_four` for each class of lead bytes;
* `wellFormed_of_completes` and `completes_of_wellFormed` — a lead byte is completed by what is well
  formed behind it and by nothing else;
* `Spells.breaks` — all other bytes in the pattern break at the second of them.

The classes differ in what the first continuation byte may be.  It is the byte that decides whether
the number is a surrogate, too small for the length or behind the last code point.
-/

namespace ProgramSupport.Utf8

/-! ### The bit pattern -/

/-- A byte that may follow in a sequence. -/
def IsContinuation (b : UInt8) : Prop := 0x80 ≤ b.toNat ∧ b.toNat ≤ 0xBF

/-- The bits of a sequence with the six of one more byte. -/
def continued (bits : Nat) (b : UInt8) : Nat := bits * 64 + b.toNat % 64

/-- The bytes spell a number in the bit pattern of UTF-8, which has up to six bytes, whether or not
this is the right way to write it or any number to be written. -/
inductive Spells : List UInt8 → Nat → Prop where
  | one {a : UInt8} {n : Nat} (ha : a.toNat ≤ 0x7F) (hn : n = a.toNat) : Spells [a] n
  | two {a b : UInt8} {n : Nat} (ha : 0xC0 ≤ a.toNat ∧ a.toNat ≤ 0xDF) (hb : IsContinuation b)
      (hn : n = continued (a.toNat - 0xC0) b) : Spells [a, b] n
  | three {a b c : UInt8} {n : Nat} (ha : 0xE0 ≤ a.toNat ∧ a.toNat ≤ 0xEF) (hb : IsContinuation b)
      (hc : IsContinuation c) (hn : n = continued (continued (a.toNat - 0xE0) b) c) :
      Spells [a, b, c] n
  | four {a b c d : UInt8} {n : Nat} (ha : 0xF0 ≤ a.toNat ∧ a.toNat ≤ 0xF7) (hb : IsContinuation b)
      (hc : IsContinuation c) (hd : IsContinuation d)
      (hn : n = continued (continued (continued (a.toNat - 0xF0) b) c) d) : Spells [a, b, c, d] n
  | five {a b c d e : UInt8} {n : Nat} (ha : 0xF8 ≤ a.toNat ∧ a.toNat ≤ 0xFB)
      (hb : IsContinuation b) (hc : IsContinuation c) (hd : IsContinuation d)
      (he : IsContinuation e)
      (hn : n = continued (continued (continued (continued (a.toNat - 0xF8) b) c) d) e) :
      Spells [a, b, c, d, e] n
  | six {a b c d e f : UInt8} {n : Nat} (ha : 0xFC ≤ a.toNat ∧ a.toNat ≤ 0xFD)
      (hb : IsContinuation b) (hc : IsContinuation c) (hd : IsContinuation d)
      (he : IsContinuation e) (hf : IsContinuation f)
      (hn : n = continued (continued (continued (continued (continued (a.toNat - 0xFC) b) c) d) e)
        f) : Spells [a, b, c, d, e, f] n

theorem Spells.continuation {a : UInt8} {more : List UInt8} {n : Nat} (h : Spells (a :: more) n) :
    ∀ b ∈ more, IsContinuation b := by
  cases h <;> simp [*]

/-- The least number that needs so many bytes. -/
def leastOfLength : Nat → Nat
  | 0 | 1 => 0
  | 2 => 0x80
  | 3 => 0x800
  | 4 => 0x10000
  | 5 => 0x200000
  | _ => 0x4000000

/-- The bytes spell the number of a character, and are no more than it needs. -/
def WellFormed (bytes : List UInt8) (n : Nat) : Prop :=
  Spells bytes n ∧ n.isValidChar ∧ leastOfLength bytes.length ≤ n

/-- What encodes a character spells its number, in as few bytes as this needs. -/
theorem wellFormed_encode (c : Char) : WellFormed (String.utf8EncodeChar c) c.toNat := by
  have hvalid : c.toNat.isValidChar := c.valid
  have hcode : c.val.toNat = c.toNat := rfl
  simp only [String.utf8EncodeChar, hcode]
  refine ⟨?_, hvalid, ?_⟩
  · split
    · exact .one (by rw [UInt8.toNat_ofNat']; omega) (by rw [UInt8.toNat_ofNat']; omega)
    split
    · refine .two ?_ ?_ ?_ <;>
        simp only [IsContinuation, continued, UInt8.toNat_ofNat'] <;> omega
    split
    · refine .three ?_ ?_ ?_ ?_ <;>
        simp only [IsContinuation, continued, UInt8.toNat_ofNat'] <;> omega
    · refine .four ?_ ?_ ?_ ?_ ?_ <;>
        simp only [IsContinuation, continued, UInt8.toNat_ofNat'] <;> omega
  · repeat' split
    all_goals simp only [leastOfLength, List.length]; omega

/-- A character has one encoding: the pattern gives back each byte of it. -/
theorem WellFormed.encode_eq {c : Char} {bytes : List UInt8} (h : WellFormed bytes c.toNat) :
    String.utf8EncodeChar c = bytes := by
  obtain ⟨hspells, hvalid, hleast⟩ := h
  have hcode : c.val.toNat = c.toNat := rfl
  simp only [String.utf8EncodeChar, hcode]
  generalize c.toNat = n at hspells hvalid hleast
  cases hspells with
  | one ha hn =>
    subst hn
    rw [if_pos ha, UInt8.ofNat_toNat]
  | two ha hb hn =>
    simp only [continued, IsContinuation, leastOfLength, List.length] at *
    rw [if_neg (by omega), if_pos (by omega)]
    simp only [List.cons.injEq, and_true, ← UInt8.toNat_inj, UInt8.toNat_ofNat']
    omega
  | three ha hb hc hn =>
    simp only [continued, IsContinuation, leastOfLength, List.length] at *
    rw [if_neg (by omega), if_neg (by omega), if_pos (by omega)]
    simp only [List.cons.injEq, and_true, ← UInt8.toNat_inj, UInt8.toNat_ofNat']
    omega
  | four ha hb hc hd hn =>
    simp only [continued, IsContinuation, leastOfLength, List.length] at *
    rw [if_neg (by omega), if_neg (by omega), if_neg (by omega)]
    simp only [List.cons.injEq, and_true, ← UInt8.toNat_inj, UInt8.toNat_ofNat']
    omega
  | five _ _ _ _ _ _ =>
    simp only [leastOfLength, List.length] at hleast
    omega
  | six _ _ _ _ _ _ _ =>
    simp only [leastOfLength, List.length] at hleast
    omega

/-- The well-formed bytes are the encodings of characters. -/
theorem encode_eq_iff {c : Char} {bytes : List UInt8} :
    String.utf8EncodeChar c = bytes ↔ WellFormed bytes c.toNat := by
  constructor
  · rintro rfl
    exact wellFormed_encode c
  · exact WellFormed.encode_eq

/-! ### Open sequences -/

namespace Sequence

/-- The byte lies in the range of the next one. -/
def Takes (s : Sequence) (b : UInt8) : Prop := s.lowest ≤ b ∧ b ≤ s.highest

/-- The bytes complete an open sequence, to a sequence for this number. -/
inductive Completes : Sequence → List UInt8 → Nat → Prop where
  | last {s : Sequence} {b : UInt8} (hb : s.Takes b) (hnone : (s.next b).missing = 0) :
      Completes s [b] (s.next b).code
  | more {s : Sequence} {b : UInt8} {bytes : List UInt8} {n : Nat} (hb : s.Takes b)
      (hsome : (s.next b).missing ≠ 0) (hbytes : Completes (s.next b) bytes n) :
      Completes s (b :: bytes) n

section

variable {s : Sequence} {b : UInt8} {bytes : List UInt8} {n : Nat}

theorem Completes.ne_nil (h : s.Completes bytes n) : bytes ≠ [] := by
  cases h <;> exact List.cons_ne_nil _ _

theorem Completes.takes (h : s.Completes (b :: bytes) n) : s.Takes b := by
  cases h with
  | last hb _ => exact hb
  | more hb _ _ => exact hb

theorem Completes.missing_ne_zero (h : s.Completes (b :: bytes) n) (hbytes : bytes ≠ []) :
    (s.next b).missing ≠ 0 := by
  cases h with
  | last _ _ => exact absurd rfl hbytes
  | more _ hsome _ => exact hsome

theorem lowest_next_le (s : Sequence) (b : UInt8) : (s.next b).lowest ≤ (s.next b).highest := by
  show (0x80 : UInt8) ≤ 0xBF
  decide

/-- A sequence whose next byte has a range can be completed. -/
theorem exists_completes (s : Sequence) (h : s.lowest ≤ s.highest) :
    ∃ more n, s.Completes more n := by
  have htakes : s.Takes s.lowest := ⟨UInt8.le_refl _, h⟩
  by_cases hnone : (s.next s.lowest).missing = 0
  · exact ⟨_, _, .last htakes hnone⟩
  · obtain ⟨more, n, hmore⟩ := exists_completes _ (s.lowest_next_le s.lowest)
    exact ⟨_, n, .more htakes hnone hmore⟩
termination_by s.missing
decreasing_by
  show s.missing - 1 < s.missing
  have hmissing : s.missing - 1 ≠ 0 := hnone
  omega

end

/-- What an open sequence has to be followed by: so many bytes, of which the first leaves the bits
where there is room for them. -/
structure Follows (s : Sequence) (bits missing : Nat) (room : Nat → Prop) : Prop where
  code_eq : s.code = bits
  missing_eq : s.missing = missing
  lowest_le : s.lowest ≤ s.highest
  takes_iff : ∀ b, s.Takes b ↔ IsContinuation b ∧ room (continued bits b)

theorem takes_iff_toNat {s : Sequence} {b : UInt8} :
    s.Takes b ↔ s.lowest.toNat ≤ b.toNat ∧ b.toNat ≤ s.highest.toNat := by
  rw [Takes, UInt8.le_iff_toNat_le, UInt8.le_iff_toNat_le]

theorem takes_next_iff {s : Sequence} {b c : UInt8} : (s.next b).Takes c ↔ IsContinuation c :=
  takes_iff_toNat

namespace Follows

variable {s : Sequence} {bits missing : Nat} {room : Nat → Prop} {b : UInt8}

/-- Behind the first byte, any continuation byte will do. -/
theorem next (hs : s.Follows bits missing room) (hb : IsContinuation b) :
    (s.next b).Follows (continued bits b) (missing - 1) fun _ => True where
  code_eq := by
    obtain ⟨hlowest, hhighest⟩ := hb
    show s.code * 64 + (b.toNat - 0x80) = continued bits b
    unfold continued
    rw [hs.code_eq]
    omega
  missing_eq := congrArg (· - 1) hs.missing_eq
  lowest_le := s.lowest_next_le b
  takes_iff c := by rw [takes_next_iff, and_true]

/-- What completes a sequence are as many continuation bytes as it misses, with room for the first
of them.  The number is made of their bits in order. -/
theorem completes_iff {more : List UInt8} {n : Nat} (hs : s.Follows bits (missing + 1) room) :
    s.Completes more n ↔ ∃ b rest, more = b :: rest ∧ rest.length = missing ∧
      IsContinuation b ∧ (∀ c ∈ rest, IsContinuation c) ∧ room (continued bits b) ∧
      n = rest.foldl continued (continued bits b) := by
  induction missing generalizing s bits room more with
  | zero =>
    constructor
    · intro h
      cases h with
      | last hb hnone =>
        obtain ⟨hcont, hroom⟩ := (hs.takes_iff _).1 hb
        exact ⟨_, [], rfl, rfl, hcont, nofun, hroom, (hs.next hcont).code_eq⟩
      | more hb hsome _ =>
        have hcont := ((hs.takes_iff _).1 hb).1
        exact absurd (hs.next hcont).missing_eq hsome
    · rintro ⟨b, rest, rfl, hlength, hcont, -, hroom, rfl⟩
      obtain rfl := List.length_eq_zero_iff.1 hlength
      have hnext := hs.next hcont
      have hlast := Completes.last ((hs.takes_iff b).2 ⟨hcont, hroom⟩) hnext.missing_eq
      rw [hnext.code_eq] at hlast
      exact hlast
  | succ missing ih =>
    constructor
    · intro h
      cases h with
      | last hb hnone =>
        have hcont := ((hs.takes_iff _).1 hb).1
        rw [(hs.next hcont).missing_eq] at hnone
        cases hnone
      | more hb _ hbytes =>
        obtain ⟨hcont, hroom⟩ := (hs.takes_iff _).1 hb
        obtain ⟨c, rest, rfl, hlength, hc, hrest, -, rfl⟩ := (ih (hs.next hcont)).1 hbytes
        exact ⟨_, c :: rest, rfl, congrArg (· + 1) hlength, hcont,
          List.forall_mem_cons.2 ⟨hc, hrest⟩, hroom, rfl⟩
    · rintro ⟨b, rest, rfl, hlength, hcont, hrest, hroom, rfl⟩
      obtain ⟨c, rest, rfl⟩ := List.exists_cons_of_length_eq_add_one hlength
      obtain ⟨hc, hrest⟩ := List.forall_mem_cons.1 hrest
      have hnext := hs.next hcont
      refine .more ((hs.takes_iff b).2 ⟨hcont, hroom⟩) ?_ ((ih hnext).2
        ⟨c, rest, rfl, Nat.succ.inj hlength, hc, hrest, trivial, rfl⟩)
      rw [hnext.missing_eq]
      exact Nat.succ_ne_zero missing

end Follows

end Sequence

/-! ### Lead bytes -/

open Sequence

/-- The table of lead bytes by their numbers. -/
theorem start?_eq (a : UInt8) :
    start? a =
      if 0xC2 ≤ a.toNat ∧ a.toNat ≤ 0xDF then some ⟨a.toNat - 0xC0, 1, 0x80, 0xBF⟩
      else if a.toNat = 0xE0 then some ⟨0, 2, 0xA0, 0xBF⟩
      else if a.toNat = 0xED then some ⟨0xD, 2, 0x80, 0x9F⟩
      else if 0xE1 ≤ a.toNat ∧ a.toNat ≤ 0xEF then some ⟨a.toNat - 0xE0, 2, 0x80, 0xBF⟩
      else if a.toNat = 0xF0 then some ⟨0, 3, 0x90, 0xBF⟩
      else if 0xF1 ≤ a.toNat ∧ a.toNat ≤ 0xF3 then some ⟨a.toNat - 0xF0, 3, 0x80, 0xBF⟩
      else if a.toNat = 0xF4 then some ⟨4, 3, 0x80, 0x8F⟩
      else none := by
  simp only [start?, UInt8.le_iff_toNat_le, ← UInt8.toNat_inj]
  rfl

/-- The bytes that begin a sequence. -/
theorem exists_start?_iff {a : UInt8} :
    (∃ s, start? a = some s) ↔ 0xC2 ≤ a.toNat ∧ a.toNat ≤ 0xF4 := by
  rw [start?_eq]
  constructor
  · rintro ⟨s, hs⟩
    apply Decidable.by_contra
    intro hlead
    repeat rw [if_neg (by omega)] at hs
    cases hs
  · intro hlead
    repeat' split
    all_goals first
      | exact ⟨_, rfl⟩
      | omega

/-- A sequence follows its bits if these and the range of the next byte leave the room. -/
theorem Sequence.follows_of_range {code bits missing : Nat} {lowest highest : UInt8}
    {room : Nat → Prop} (hcode : code = bits) (hle : lowest ≤ highest)
    (hrange : ∀ b : UInt8, lowest.toNat ≤ b.toNat ∧ b.toNat ≤ highest.toNat ↔
      IsContinuation b ∧ room (continued bits b)) :
    Follows ⟨code, missing, lowest, highest⟩ bits missing room :=
  ⟨hcode, rfl, hle, fun b => takes_iff_toNat.trans (hrange b)⟩

section

variable {a : UInt8} {s : Sequence}

/-- The lead byte of a sequence of two bytes leaves room for all numbers that need two. -/
theorem follows_two (hstart : start? a = some s) (h : a.toNat ≤ 0xDF) :
    s.Follows (a.toNat - 0xC0) 1 fun _ => True := by
  have hlead := exists_start?_iff.1 ⟨s, hstart⟩
  rw [start?_eq, if_pos ⟨hlead.1, h⟩] at hstart
  obtain rfl := Option.some.inj hstart
  exact follows_of_range rfl (by decide) fun b => (and_true _).symm ▸ Iff.rfl

/-- The lead byte of a sequence of three bytes leaves room for the numbers that need three, without
the surrogates. -/
theorem follows_three (hstart : start? a = some s) (h : 0xE0 ≤ a.toNat ∧ a.toNat ≤ 0xEF) :
    s.Follows (a.toNat - 0xE0) 2 fun bits => 0x20 ≤ bits ∧ (bits < 0x360 ∨ 0x37F < bits) := by
  rw [start?_eq, if_neg (by omega)] at hstart
  split at hstart
  · obtain rfl := Option.some.inj hstart
    refine follows_of_range (by omega) (by decide) fun b => ?_
    simp only [IsContinuation, continued, UInt8.toNat_ofNat]
    omega
  split at hstart
  · obtain rfl := Option.some.inj hstart
    refine follows_of_range (by omega) (by decide) fun b => ?_
    simp only [IsContinuation, continued, UInt8.toNat_ofNat]
    omega
  · rw [if_pos (by omega)] at hstart
    obtain rfl := Option.some.inj hstart
    refine follows_of_range rfl (by decide) fun b => ?_
    simp only [IsContinuation, continued, UInt8.toNat_ofNat]
    omega

/-- The lead byte of a sequence of four bytes leaves room for the numbers that need four, up to the
last code point. -/
theorem follows_four (hstart : start? a = some s) (h : 0xF0 ≤ a.toNat) :
    s.Follows (a.toNat - 0xF0) 3 fun bits => 0x10 ≤ bits ∧ bits ≤ 0x10F := by
  have hlead := exists_start?_iff.1 ⟨s, hstart⟩
  rw [start?_eq, if_neg (by omega), if_neg (by omega), if_neg (by omega), if_neg (by omega)]
    at hstart
  split at hstart
  · obtain rfl := Option.some.inj hstart
    refine follows_of_range (by omega) (by decide) fun b => ?_
    simp only [IsContinuation, continued, UInt8.toNat_ofNat]
    omega
  split at hstart
  · obtain rfl := Option.some.inj hstart
    refine follows_of_range rfl (by decide) fun b => ?_
    simp only [IsContinuation, continued, UInt8.toNat_ofNat]
    omega
  · rw [if_pos (by omega)] at hstart
    obtain rfl := Option.some.inj hstart
    refine follows_of_range (by omega) (by decide) fun b => ?_
    simp only [IsContinuation, continued, UInt8.toNat_ofNat]
    omega

theorem follows_of_start? (hstart : start? a = some s) :
    ∃ bits missing room, s.Follows bits (missing + 1) room := by
  by_cases htwo : a.toNat ≤ 0xDF
  · exact ⟨_, _, _, follows_two hstart htwo⟩
  by_cases hthree : a.toNat ≤ 0xEF
  · exact ⟨_, _, _, follows_three hstart ⟨by omega, hthree⟩⟩
  · exact ⟨_, _, _, follows_four hstart (by omega)⟩

end

/-! ### Complete sequences -/

/-- Bytes that complete the sequence of a lead byte are well formed behind it. -/
theorem wellFormed_of_completes {a : UInt8} {s : Sequence} {more : List UInt8} {n : Nat}
    (hstart : start? a = some s) (h : s.Completes more n) : WellFormed (a :: more) n := by
  have hlead := exists_start?_iff.1 ⟨s, hstart⟩
  by_cases htwo : a.toNat ≤ 0xDF
  · obtain ⟨b, rest, rfl, hlength, hb, -, -, rfl⟩ := (follows_two hstart htwo).completes_iff.1 h
    obtain rfl := List.length_eq_zero_iff.1 hlength
    refine ⟨.two (by omega) hb rfl, ?_⟩
    simp only [continued, List.foldl, leastOfLength, List.length]
    omega
  by_cases hthree : a.toNat ≤ 0xEF
  · have hs := follows_three hstart ⟨by omega, hthree⟩
    obtain ⟨b, rest, rfl, hlength, hb, hrest, hroom, rfl⟩ := hs.completes_iff.1 h
    obtain ⟨c, rfl⟩ := List.length_eq_one_iff.1 hlength
    have hc := List.forall_mem_singleton.1 hrest
    refine ⟨.three (by omega) hb hc rfl, ?_⟩
    simp only [continued, List.foldl, leastOfLength, List.length] at *
    omega
  · have hs := follows_four hstart (by omega)
    obtain ⟨b, rest, rfl, hlength, hb, hrest, hroom, rfl⟩ := hs.completes_iff.1 h
    obtain ⟨c, rest, rfl⟩ := List.exists_cons_of_length_eq_add_one hlength
    obtain ⟨d, rfl⟩ := List.length_eq_one_iff.1 (Nat.succ.inj hlength)
    obtain ⟨hc, hd⟩ := List.forall_mem_cons.1 hrest
    refine ⟨.four (by omega) hb hc (List.forall_mem_singleton.1 hd) rfl, ?_⟩
    simp only [continued, List.foldl, leastOfLength, List.length] at *
    omega

/-- Behind the lead byte of well-formed bytes, the others complete its sequence. -/
theorem completes_of_wellFormed {a : UInt8} {more : List UInt8} {n : Nat} (hmore : more ≠ [])
    (h : WellFormed (a :: more) n) : ∃ s, start? a = some s ∧ s.Completes more n := by
  obtain ⟨hspells, hvalid, hleast⟩ := h
  cases hspells with
  | one _ _ => exact absurd rfl hmore
  | @two _ b _ ha hb hn =>
    have hlead : 0xC2 ≤ a.toNat ∧ a.toNat ≤ 0xF4 := by
      simp only [continued, leastOfLength, List.length] at *
      omega
    obtain ⟨s, hstart⟩ := exists_start?_iff.2 hlead
    exact ⟨s, hstart, (follows_two hstart ha.2).completes_iff.2
      ⟨b, [], rfl, rfl, hb, nofun, trivial, hn⟩⟩
  | @three _ b c _ ha hb hc hn =>
    obtain ⟨s, hstart⟩ := exists_start?_iff.2 (show 0xC2 ≤ a.toNat ∧ a.toNat ≤ 0xF4 by omega)
    refine ⟨s, hstart, (follows_three hstart ha).completes_iff.2
      ⟨b, [c], rfl, rfl, hb, List.forall_mem_singleton.2 hc, ?_, hn⟩⟩
    simp only [continued, leastOfLength, List.length] at *
    omega
  | @four _ b c d _ ha hb hc hd hn =>
    have hroom : 0x10 ≤ continued (a.toNat - 0xF0) b ∧ continued (a.toNat - 0xF0) b ≤ 0x10F := by
      simp only [continued, leastOfLength, List.length] at *
      omega
    have hlead : 0xC2 ≤ a.toNat ∧ a.toNat ≤ 0xF4 := by
      simp only [continued] at hroom
      omega
    obtain ⟨s, hstart⟩ := exists_start?_iff.2 hlead
    exact ⟨s, hstart, (follows_four hstart ha.1).completes_iff.2 ⟨b, [c, d], rfl, rfl, hb,
      List.forall_mem_cons.2 ⟨hc, List.forall_mem_singleton.2 hd⟩, hroom, hn⟩⟩
  | five _ _ _ _ _ _ =>
    simp only [leastOfLength, List.length] at hleast
    omega
  | six _ _ _ _ _ _ _ =>
    simp only [leastOfLength, List.length] at hleast
    omega

/-! ### Malformed sequences -/

/-- A sequence does not take a byte that only leads to bytes that are not well formed. -/
theorem Sequence.Follows.not_takes {a b : UInt8} {rest : List UInt8} {s : Sequence}
    {bits missing : Nat} {room : Nat → Prop} (hs : s.Follows bits (missing + 1) room)
    (hstart : start? a = some s) (hlength : rest.length = missing)
    (hrest : ∀ c ∈ rest, IsContinuation c)
    (hbad : ¬WellFormed (a :: b :: rest) (rest.foldl continued (continued bits b))) :
    ¬s.Takes b := by
  intro htakes
  obtain ⟨hb, hroom⟩ := (hs.takes_iff b).1 htakes
  exact hbad (wellFormed_of_completes hstart
    (hs.completes_iff.2 ⟨b, rest, rfl, hlength, hb, hrest, hroom, rfl⟩))

/-- Bytes in the bit pattern that are not well formed break at the second of them, if the first
begins a sequence at all. -/
theorem Spells.breaks {bytes : List UInt8} {n : Nat} (h : Spells bytes n)
    (hbad : ¬WellFormed bytes n) :
    ∃ a b rest, bytes = a :: b :: rest ∧ 0xC0 ≤ a.toNat ∧ (∀ c ∈ b :: rest, IsContinuation c) ∧
      ∀ s, start? a = some s → ¬s.Takes b := by
  cases h with
  | one ha hn =>
    refine absurd ⟨.one ha hn, ?_, Nat.zero_le n⟩ hbad
    show n < 0xD800 ∨ _
    omega
  | @two a b _ ha hb hn =>
    have hrest : ∀ c ∈ ([] : List UInt8), IsContinuation c := nofun
    refine ⟨a, b, [], rfl, ha.1, List.forall_mem_cons.2 ⟨hb, hrest⟩, fun s hstart => ?_⟩
    subst hn
    exact (follows_two hstart ha.2).not_takes hstart rfl hrest hbad
  | @three a b c _ ha hb hc hn =>
    have hrest := List.forall_mem_singleton.2 hc
    refine ⟨a, b, [c], rfl, by omega, List.forall_mem_cons.2 ⟨hb, hrest⟩, fun s hstart => ?_⟩
    subst hn
    exact (follows_three hstart ha).not_takes hstart rfl hrest hbad
  | @four a b c d _ ha hb hc hd hn =>
    have hrest := List.forall_mem_cons.2 ⟨hc, List.forall_mem_singleton.2 hd⟩
    refine ⟨a, b, [c, d], rfl, by omega, List.forall_mem_cons.2 ⟨hb, hrest⟩, fun s hstart => ?_⟩
    subst hn
    exact (follows_four hstart ha.1).not_takes hstart rfl hrest hbad
  | @five a b c d e _ ha hb hc hd he _ =>
    refine ⟨a, b, [c, d, e], rfl, by omega, ?_, fun s hstart => ?_⟩
    · simp only [List.forall_mem_cons]
      exact ⟨hb, hc, hd, he, nofun⟩
    · have hlead := exists_start?_iff.1 ⟨s, hstart⟩
      omega
  | @six a b c d e f _ ha hb hc hd he hf _ =>
    refine ⟨a, b, [c, d, e, f], rfl, by omega, ?_, fun s hstart => ?_⟩
    · simp only [List.forall_mem_cons]
      exact ⟨hb, hc, hd, he, hf, nofun⟩
    · have hlead := exists_start?_iff.1 ⟨s, hstart⟩
      omega

end ProgramSupport.Utf8
